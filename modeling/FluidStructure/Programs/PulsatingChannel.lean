import FluidStructure.Config.Section
import FluidStructure.Coupling.FluidSolver
import FluidStructure.Surface.Interface

/-!
# A pulsating channel

A fluid solver for demonstration: a uniform pulsating pressure on a strip of wall faces,
relieved by the mean motion of the wall.
-/

namespace FluidStructure.Programs

open FluidStructure.Coupling

/-! ## The wall -/

/-- The wall faces of one rank, `count` quadrilaterals side by side.  Face `f` has the
vertices `f` and `f + 1` at the bottom and `count + 1 + f` and `count + 2 + f` at the top. -/
structure WallPatch where
  count : Nat
deriving DecidableEq, Repr

namespace WallPatch

/-- Vertices of the patch, two rows. -/
def vertexCount (w : WallPatch) : Nat := 2 * (w.count + 1)

/-- The vertices of one face, counterclockwise from the lower left. -/
def corners (w : WallPatch) (f : Nat) : List UInt64 :=
  [UInt64.ofNat f, UInt64.ofNat (f + 1), UInt64.ofNat (w.count + 2 + f),
    UInt64.ofNat (w.count + 1 + f)]

/-- Enters the faces from `f` on; the next start is the number of vertices so far. -/
def connectivityFrom (w : WallPatch) (f entered : Nat) : Nat → Surface.Connectivity
  | 0 => ⟨[UInt64.ofNat entered], []⟩
  | n + 1 =>
    let rest := w.connectivityFrom (f + 1) (entered + 4) n
    ⟨UInt64.ofNat entered :: rest.starts, w.corners f ++ rest.vertices⟩

def connectivity (w : WallPatch) : Surface.Connectivity := w.connectivityFrom 0 0 w.count

/-- The interface of the whole patch. -/
def surface (w : WallPatch) : Except Fault Surface :=
  Surface.ofFaces ((List.range w.count).map UInt64.ofNat) w.connectivity []

end WallPatch

/-! ## The fluid -/

/-- Parameters of the channel, and what it knows of the wall. -/
structure PulsatingChannel where
  faceArea : Float
  amplitude : Float
  frequency : Float
  /-- Pressure relief per unit of mean displacement. -/
  addedStiffness : Float
  surface : Surface
  meanDisplacement : Float := 0.0
  wallDisplacement : List Float

namespace PulsatingChannel

/-- Reads the parameters of a channel along a wall. -/
def ofSection (flap : Config.Section) (surface : Surface) (wallVertices : Nat) :
    Except Fault PulsatingChannel := do
  let faceArea ← flap.getReal "face_area" 0.01
  let amplitude ← flap.getReal "pressure_amplitude" 100.0
  let frequency ← flap.getReal "frequency" 5.0
  let addedStiffness ← flap.getReal "added_stiffness" 0.0
  return { faceArea, amplitude, frequency, addedStiffness, surface
           wallDisplacement := Session.zeroVectors wallVertices }

def pi : Float := 3.141592653589793

/-- The pressure at a time. -/
def pressure (c : PulsatingChannel) (t : Float) : Float :=
  c.amplitude * Float.sin (2.0 * pi * c.frequency * t) - c.addedStiffness * c.meanDisplacement

/-- End of the step being computed. -/
def endTime (s : Session) (r : RunControl) : Float := r.time + s.dt

/-- Equal forces on all faces of a buffer, along the first axis. -/
def uniformForces (force : Float) : List Float → List Float
  | _ :: _ :: _ :: rest => force :: 0.0 :: 0.0 :: uniformForces force rest
  | rest => rest

/-- Mean of the first components of some displacement vectors. -/
def mean (count : Nat) (displacement : List Float) : Float :=
  if count = 0 then 0.0
  else
    (((Surface.vectors displacement).take count).foldl (fun sum v => sum + v.x) 0.0) /
      Float.ofNat count

instance : FluidSolver PulsatingChannel where
  computeForces s r buffer c :=
    ((.ok (), uniformForces (c.pressure (endTime s r) * c.faceArea) buffer), c)
  imposeDisplacement s displacement c :=
    let (result, wall) := c.surface.scatterVertices displacement c.wallDisplacement
    match result with
    | .error fault => (.error fault, { c with wallDisplacement := wall })
    | .ok () =>
      (.ok (),
        { c with
          wallDisplacement := wall
          meanDisplacement := mean s.vertexCount displacement })

end PulsatingChannel

end FluidStructure.Programs
