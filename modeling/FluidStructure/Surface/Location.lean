/-!
# Mesh locations of interface fields
-/

namespace FluidStructure.Surface

/-- Forces live on faces, displacements and velocities on vertices. -/
inductive Location where
  | face
  | vertex
deriving DecidableEq, Repr

namespace Location

def all : List Location := [.face, .vertex]

def name : Location → String
  | .face => "Face"
  | .vertex => "Vertex"

end Location

end FluidStructure.Surface
