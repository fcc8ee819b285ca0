import FluidStructure.Journal.Notice
import FluidStructure.Surface.Location
import FluidStructure.Surface.Scatter

/-!
# The coupled interface

An interface is a choice of boundary faces of the fluid mesh together with the sorted
set of their vertices.  A vertex on the edge of a partition appears on several ranks;
an ownership mask says which of them counts it.
-/

namespace FluidStructure

open FluidStructure.Journal

/-- Faces and vertices that take part in the coupling. -/
structure Surface where
  /-- Parent ids of the faces, in the order of the force values. -/
  faceIds : List UInt64
  /-- Parent ids of the vertices, in the order of the displacement values. -/
  vertexIds : List UInt64
  /-- How many of the vertices this rank counts. -/
  ownedVertices : Nat

namespace Surface

/-- Vertices of boundary faces in compressed form: the vertices of face `f` are the entries
of `vertices` from `starts[f]` up to `starts[f + 1]`. -/
structure Connectivity where
  starts : List UInt64
  vertices : List UInt64

/-- One fewer than there are starts. -/
def Connectivity.faceCount (c : Connectivity) : Nat := c.starts.length - 1

/-- The vertices of one face. -/
def Connectivity.verticesOf (c : Connectivity) (face : UInt64) :
    Except Fault (List UInt64) :=
  let f := face.toNat
  if c.faceCount ≤ f then .error (.faceOutOfRange f c.faceCount)
  else
    let start := ((c.starts[f]?).getD 0).toNat
    let stop := ((c.starts[f + 1]?).getD 0).toNat
    match Fault.require (start ≤ stop ∧ stop ≤ c.vertices.length)
        "start <= end && end <= face_vertex_ids.size()"
        "inconsistent face -> vertex connectivity" with
    | .error fault => .error fault
    | .ok () => .ok ((c.vertices.take stop).drop start)

/-- The vertices of several faces, face after face. -/
def Connectivity.verticesOfAll (c : Connectivity) : List UInt64 → Except Fault (List UInt64)
  | [] => .ok []
  | face :: rest =>
    match c.verticesOf face with
    | .error fault => .error fault
    | .ok vs =>
      match c.verticesOfAll rest with
      | .error fault => .error fault
      | .ok others => .ok (vs ++ others)

/-- An increasing list without its repetitions. -/
def dropRepeats : List UInt64 → List UInt64
  | a :: b :: rest => if a = b then dropRepeats (b :: rest) else a :: dropRepeats (b :: rest)
  | as => as

/-- The sorted set of some ids. -/
def sortedSet (ids : List UInt64) : List UInt64 :=
  dropRepeats (ids.mergeSort fun a b => a ≤ b)

/-- How many of the ids a mask marks. -/
def countOwned (owned : List Bool) : List UInt64 → Except Fault Nat
  | [] => .ok 0
  | v :: rest =>
    match Fault.checkRange v.toNat owned.length with
    | .error fault => .error fault
    | .ok () =>
      match countOwned owned rest with
      | .error fault => .error fault
      | .ok n => .ok (if (owned[v.toNat]?).getD false then n + 1 else n)

/-- The interface made of some boundary faces.  An empty mask marks every vertex. -/
def ofFaces (faceIds : List UInt64) (c : Connectivity) (owned : List Bool) :
    Except Fault Surface :=
  match Fault.require (!c.starts.isEmpty) "!face_vertex_index.empty()"
      "face -> vertex index must have n_b_faces + 1 entries" with
  | .error fault => .error fault
  | .ok () =>
    match c.verticesOfAll faceIds with
    | .error fault => .error fault
    | .ok vs =>
      let vertexIds := sortedSet vs
      if owned.isEmpty then .ok ⟨faceIds, vertexIds, vertexIds.length⟩
      else
        match countOwned owned vertexIds with
        | .error fault => .error fault
        | .ok n => .ok ⟨faceIds, vertexIds, n⟩

def faceCount (s : Surface) : Nat := s.faceIds.length

def vertexCount (s : Surface) : Nat := s.vertexIds.length

/-- What is reported about a new interface. -/
def notice (s : Surface) : Notice :=
  .surfaceMapped s.faceCount s.vertexCount s.ownedVertices

/-- Parent ids at a location, in the order of its values. -/
def ids (s : Surface) : Location → List UInt64
  | .face => s.faceIds
  | .vertex => s.vertexIds

/-- Scatters the values at a location onto an array of the parent mesh. -/
def scatterAt (location : Location) (s : Surface) (values out : List Float) :
    Except Fault Unit × List Float := scatter (s.ids location) values out

def scatterFaces : Surface → List Float → List Float → Except Fault Unit × List Float :=
  scatterAt .face

def scatterVertices : Surface → List Float → List Float → Except Fault Unit × List Float :=
  scatterAt .vertex

end Surface

end FluidStructure
