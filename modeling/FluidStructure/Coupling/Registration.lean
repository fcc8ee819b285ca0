import FluidStructure.Coupling.Surroundings

/-!
# Registering the interface

Attaches an interface to a session.  The numbers of faces and vertices are summed over
the local group, in which each vertex is counted by its owner.
-/

namespace FluidStructure.Coupling.Session

open FluidStructure.Journal

/-- Attaches an interface with a reference length.  All ranks of the local group take
part. -/
def register (place : Parallel.Place) (surface : Surface) (length : Float) :
    Act Coupling Session Unit := do
  Act.ofExcept ((← Act.get).checkRegistration length)
  Act.modify fun s => s.sized surface
  let counts ← sumCounts [Int64.ofNat surface.faceCount, Int64.ofNat surface.ownedVertices]
  let faces := counts.headD 0
  let vertices := counts[1]?.getD 0
  Act.modify fun s => s.attach surface length faces vertices
  noteIf (place.isRoot && (← Act.get).isVerbose) (.interfaceRegistered faces vertices length)

end FluidStructure.Coupling.Session
