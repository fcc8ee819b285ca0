import FluidStructure.Fault
import FluidStructure.Overwrite

/-!
# Scattering interface values

Interface values are vectors of three, one after the other.  Scattering writes the
vectors to the places that a list of ids names in a parent array.  Ids are words of 64
bits and so is the arithmetic on them.
-/

namespace FluidStructure.Surface

/-- The three components of one vector. -/
structure Vector3 where
  x : Float
  y : Float
  z : Float

/-- The whole vectors of a list of components; a rest of one or two is left out. -/
def vectors : List Float → List Vector3
  | x :: y :: z :: rest => ⟨x, y, z⟩ :: vectors rest
  | _ => []

/-- The first component of the vector with an id. -/
def firstComponent (id : UInt64) : UInt64 := 3 * id

/-- Writes a vector at an id.  Places outside the array are left out. -/
def writeVector (id : UInt64) (v : Vector3) (out : List Float) : List Float :=
  ((out.set (firstComponent id).toNat v.x).set (firstComponent id + 1).toNat v.y).set
    (firstComponent id + 2).toNat v.z

/-- Writes vectors at their ids in order, up to the first id whose last component lies
beyond the array. -/
def writeVectors : List (UInt64 × Vector3) → List Float → Except Fault Unit × List Float
  | [], out => (.ok (), out)
  | (id, v) :: rest, out =>
    match Fault.checkRange (firstComponent id + 2).toNat out.length with
    | .error fault => (.error fault, out)
    | .ok () => writeVectors rest (writeVector id v out)

/-- Scatters values onto a parent array and gives the array as it is afterwards, also
after a fault.  Without ids the values are copied in order. -/
def scatter (ids : List UInt64) (values out : List Float) : Except Fault Unit × List Float :=
  if ids.isEmpty then
    match Fault.require (values.length ≤ out.length) "out.size() >= in.size()"
        "parent array too small for scatter" with
    | .error fault => (.error fault, out)
    | .ok () => (.ok (), overwrite out values)
  else
    match Fault.require (ids.length = values.length / 3) "elt_ids.size() == n_elts"
        "id list and value count differ" with
    | .error fault => (.error fault, out)
    | .ok () => writeVectors (ids.zip (vectors values)) out

theorem length_writeVector (id : UInt64) (v : Vector3) (out : List Float) :
    (writeVector id v out).length = out.length := by
  simp [writeVector]

theorem length_writeVectors (writes : List (UInt64 × Vector3)) (out : List Float) :
    (writeVectors writes out).2.length = out.length := by
  induction writes generalizing out with
  | nil => rfl
  | cons write rest ih =>
    obtain ⟨id, v⟩ := write
    simp only [writeVectors]
    split
    · rfl
    · rw [ih, length_writeVector]

/-- Scattering never changes the size of the parent array. -/
theorem length_scatter (ids : List UInt64) (values out : List Float) :
    (scatter ids values out).2.length = out.length := by
  simp only [scatter]
  split
  · split
    · rfl
    · exact length_overwrite out values
  · split
    · rfl
    · exact length_writeVectors _ out

end FluidStructure.Surface
