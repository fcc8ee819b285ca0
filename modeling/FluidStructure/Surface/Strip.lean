import FluidStructure.Surface.Interface

/-!
# Strips of quadrilaterals

A strip has faces side by side between a lower and an upper row of vertices.  Face `f`
spans the vertices `f` and `f + 1` below and the two above them.
-/

namespace FluidStructure.Surface

/-- The four corners of a face in a strip, the lower row numbered first. -/
def stripCorners (faces face : Nat) : List UInt64 :=
  [face, face + 1, faces + 1 + face + 1, faces + 1 + face].map UInt64.ofNat

/-- Faces `0` to `faces - 1`. -/
def stripFaces (faces : Nat) : List UInt64 := (List.range faces).map UInt64.ofNat

/-- The connectivity of a strip; every face has four vertices. -/
def stripConnectivity (faces : Nat) : Connectivity where
  starts := (List.range (faces + 1)).map fun f => UInt64.ofNat (4 * f)
  vertices := (List.range faces).flatMap (stripCorners faces)

/-- The interface that is a whole strip. -/
def strip (faces : Nat) : Except Fault Surface :=
  ofFaces (stripFaces faces) (stripConnectivity faces) []

end FluidStructure.Surface
