import FluidStructure.Proofs.Surface.Scattering
import Mathlib.Order.Bounds.Basic

/-!
# What an array holds after scattering

Vectors are written in the order of their ids, up to the first id for which the array has no room.  An
id may occur several times.  So a place holds a component of the last vector that was written to it,
and what it held before if there is none.

Ids below 2 to the 62 have a last place that is a word, so the range check is right for them.
-/

namespace FluidStructure.Surface

/-- The index of the first id without room in an array of this size, the number of ids if there is
room for all. -/
def firstWithoutRoom (size : Nat) (ids : List UInt64) : Nat :=
  ids.findIdx fun id => !hasRoom size id

/-- Of the first `m` ids, `i` is the index of the last one that is `j`. -/
def LastUse (ids : List UInt64) (m j i : Nat) : Prop :=
  IsGreatest {i | i < m ∧ ids[i]?.map UInt64.toNat = some j} i

/-- An array that was filled with the vectors of the first `m` ids, in their order. -/
structure Filled (ids : List UInt64) (values before : List Float) (m : Nat) (after : List Float) :
    Prop where
  size : after.length = before.length
  used : ∀ i j, LastUse ids m j i → ∀ k : Fin 3, after[3 * j + k]? = values[3 * i + k]?
  unused : ∀ j, (∀ i < m, ids[i]?.map UInt64.toNat ≠ some j) → ∀ k : Fin 3,
    after[3 * j + k]? = before[3 * j + k]?

section Filling

variable {ids : List UInt64} {values out : List Float} {size m : Nat}

theorem reached_eq_take (size : Nat) (ids : List UInt64) :
    reached size ids = ids.take (firstWithoutRoom size ids) :=
  List.takeWhile_eq_take_findIdx_not

theorem checkable_of_narrow {id : UInt64} (narrow : id.toNat < Nat.pow 2 62) (size : Nat) :
    Checkable size id := by
  have bound : Nat.pow 2 62 = 4611686018427387904 := rfl
  have words : UInt64.size = 18446744073709551616 := rfl
  left
  unfold lastPlace
  omega

/-- Of several vectors with one id the one that is written last stays. -/
theorem getElem?_writeAll_last {writes : List (UInt64 × Vector3)} {i : Nat} (h : i < writes.length)
    (fits : ∀ write ∈ writes, lastPlace write.1 < UInt64.size ∧ hasRoom out.length write.1 = true)
    (last : ∀ l write, i < l → writes[l]? = some write → write.1 ≠ writes[i].1) (k : Fin 3) :
    (writeAll writes out)[3 * writes[i].1.toNat + k]? = some (writes[i].2.component k) := by
  -- nothing behind the cut has the id, so what is written at the cut is not written over
  have cut : writes = writes.take i ++ (writes[i].1, writes[i].2) :: writes.drop (i + 1) := by
    simp
  have later : ∀ write ∈ writes.drop (i + 1), write.1 ≠ writes[i].1 := by
    intro write member
    obtain ⟨l, found⟩ := List.mem_iff_getElem?.1 member
    rw [List.getElem?_drop] at found
    exact last (i + 1 + l) write (by omega) found
  have stays := @getElem?_writeAll_inside _ _ out (writes.take i) (writes.drop (i + 1)) (by rwa [← cut])
    later k
  rwa [← cut] at stays

theorem length_writeAll (writes : List (UInt64 × Vector3)) (out : List Float) :
    (writeAll writes out).length = out.length := by
  induction writes generalizing out with
  | nil => rfl
  | cons write rest ih => exact (ih (writeVector write.1 write.2 out)).trans (length_writeVector ..)

theorem getElem?_ids_of_write {l : Nat} {write : UInt64 × Vector3}
    (found : ((ids.take m).zip (vectors values))[l]? = some write) : l < m ∧ ids[l]? = some write.1 := by
  obtain ⟨id, -⟩ := List.getElem?_zip_eq_some.1 found
  rw [List.getElem?_take] at id
  split at id
  · exact ⟨‹_›, id⟩
  · cases id

/-- Vectors that all have their room fill the array. -/
theorem filled_writeAll (matching : ids.length = values.length / 3)
    (fits : ∀ id ∈ ids.take m, lastPlace id < UInt64.size ∧ hasRoom out.length id = true) :
    Filled ids values out m (writeAll ((ids.take m).zip (vectors values)) out) where
  size := length_writeAll _ out
  used i j last k := by
    obtain ⟨⟨below, found⟩, greatest⟩ := last
    obtain ⟨id, at', rfl⟩ := Option.map_eq_some_iff.1 found
    obtain ⟨inside, rfl⟩ := List.getElem?_eq_some_iff.1 at'
    have enough : i < (vectors values).length := by
      rw [length_vectors]
      omega
    have reached : i < ((ids.take m).zip (vectors values)).length := by
      rw [List.length_zip, List.length_take]
      omega
    have last : ∀ l write, i < l → ((ids.take m).zip (vectors values))[l]? = some write →
        write.1 ≠ ((ids.take m).zip (vectors values))[i].1 := by
      intro l write later found same
      rw [List.getElem_zip, List.getElem_take] at same
      obtain ⟨early, used⟩ := getElem?_ids_of_write found
      have most : l ≤ i := greatest ⟨early, by simp [used, same]⟩
      omega
    have stays := getElem?_writeAll_last reached
      (fun write member => fits write.1 (List.of_mem_zip member).1) last k
    rwa [List.getElem_zip, List.getElem_take, component_vectors values enough] at stays
  unused j none k := by
    refine getElem?_writeAll_outside (fun write member => (fits _ (List.of_mem_zip member).1).1)
      fun write member l same => ?_
    obtain ⟨i, found⟩ := List.mem_iff_getElem?.1 member
    obtain ⟨early, used⟩ := getElem?_ids_of_write found
    refine none i early ?_
    rw [used, Option.map_some, Option.some_inj]
    omega

/-- The whole of scattering along ids: the array is filled up to the first id without room, and such an
id is a fault. -/
theorem scatter_filled_of_checkable (nonempty : ids ≠ []) (matching : ids.length = values.length / 3)
    (checkable : ∀ id ∈ ids, Checkable out.length id) :
    Filled ids values out (firstWithoutRoom out.length ids) (scatter ids values out).2 ∧
    (firstWithoutRoom out.length ids < ids.length →
      ∃ fault, (scatter ids values out).1 = .error fault ∧ fault.kind = .outOfRange) ∧
    (firstWithoutRoom out.length ids = ids.length → (scatter ids values out).1 = .ok ()) := by
  have fits : ∀ id ∈ ids.take (firstWithoutRoom out.length ids),
      lastPlace id < UInt64.size ∧ hasRoom out.length id = true := by
    rw [← reached_eq_take]
    intro id member
    have room : hasRoom out.length id = true := List.mem_takeWhile_imp member
    exact ⟨narrow_of_hasRoom (checkable id ((List.takeWhile_prefix _).subset member)) room, room⟩
  rw [scatter_eq nonempty matching checkable, reached_eq_take]
  refine ⟨filled_writeAll matching fits, fun early => ?_, fun all => ?_⟩
  · obtain ⟨id, member, crowded⟩ := List.findIdx_lt_length.1 early
    cases found : ids.find? fun id => !hasRoom out.length id with
    | none => exact absurd crowded (List.find?_eq_none.1 found id member)
    | some first => exact ⟨_, rfl, rfl⟩
  · have found : (ids.find? fun id => !hasRoom out.length id) = none :=
      List.find?_eq_none.2 (by simpa [firstWithoutRoom, List.findIdx_eq_length] using all)
    rw [found]

theorem scatter_filled (nonempty : ids ≠ []) (matching : ids.length = values.length / 3)
    (narrow : ∀ id ∈ ids, id.toNat < Nat.pow 2 62) :
    Filled ids values out (firstWithoutRoom out.length ids) (scatter ids values out).2 ∧
    (firstWithoutRoom out.length ids < ids.length →
      ∃ fault, (scatter ids values out).1 = .error fault ∧ fault.kind = .outOfRange) ∧
    (firstWithoutRoom out.length ids = ids.length → (scatter ids values out).1 = .ok ()) :=
  scatter_filled_of_checkable nonempty matching fun id member =>
    checkable_of_narrow (narrow id member) out.length

/-! ## Without ids -/

theorem scatter_nil (values out : List Float) :
    scatter [] values out =
      if values.length ≤ out.length then (.ok (), values ++ out.drop values.length)
      else (.error (.requirement "out.size() >= in.size()" "parent array too small for scatter"), out) := by
  unfold scatter Fault.require
  by_cases fits : values.length ≤ out.length <;> simp [fits, overwrite_of_le]

theorem scatter_mismatch (nonempty : ids ≠ []) (other : ids.length ≠ values.length / 3) :
    scatter ids values out =
      (.error (.requirement "elt_ids.size() == n_elts" "id list and value count differ"), out) := by
  unfold scatter Fault.require
  simp [nonempty, other]

/-- Scattering checks the number of ids first.  Then a place of the array holds what was written to it
last, up to the first id without room, which is a fault; nothing else changes.  Without ids the values
go to the front, if there is room for all of them. -/
theorem scatter_last_writer (ids : List UInt64) (values out : List Float)
    (narrow : ∀ id ∈ ids, id.toNat < Nat.pow 2 62) :
    (ids ≠ [] → ids.length ≠ values.length / 3 →
      (scatter ids values out).2 = out ∧
        ∃ fault, (scatter ids values out).1 = .error fault ∧ fault.kind = .invalidArgument) ∧
    (ids ≠ [] → ids.length = values.length / 3 →
      Filled ids values out (firstWithoutRoom out.length ids) (scatter ids values out).2 ∧
        ((∃ fault, (scatter ids values out).1 = .error fault ∧ fault.kind = .outOfRange) ↔
          firstWithoutRoom out.length ids < ids.length) ∧
        (firstWithoutRoom out.length ids = ids.length → (scatter ids values out).1 = .ok ())) ∧
    (ids = [] → values.length ≤ out.length →
      scatter ids values out = (.ok (), values ++ out.drop values.length)) ∧
    (ids = [] → out.length < values.length →
      (scatter ids values out).2 = out ∧
        ∃ fault, (scatter ids values out).1 = .error fault ∧ fault.kind = .invalidArgument) := by
  refine ⟨fun nonempty other => ?_, fun nonempty matching => ?_, fun empty fits => ?_,
    fun empty less => ?_⟩
  · rw [scatter_mismatch nonempty other]
    exact ⟨rfl, _, rfl, rfl⟩
  · obtain ⟨filled, crowded, roomy⟩ := @scatter_filled ids values out nonempty matching narrow
    refine ⟨filled, ⟨?_, crowded⟩, roomy⟩
    rintro ⟨fault, failed, -⟩
    by_contra late
    have all : firstWithoutRoom out.length ids = ids.length :=
      Nat.le_antisymm List.findIdx_le_length (Nat.not_lt.1 late)
    rw [roomy all] at failed
    cases failed
  · rw [empty, scatter_nil, if_pos fits]
  · rw [empty, scatter_nil, if_neg (Nat.not_le.2 less)]
    exact ⟨rfl, _, rfl, rfl⟩

end Filling

namespace Repeated

def ids : List UInt64 := [1, 0, 1, 4, 0]

def values : List Float := [1, 2, 3, 4, 5, 6, 7, 8, 9, 10, 11, 12, 13, 14, 15]

def out : List Float := [0, 0, 0, 0, 0, 0, -1, -2, -3]

/-- The array has no room for the fourth of the ids.  The third vector is written over the first one. -/
theorem scatter_last_writer_repeated :
    (∀ id ∈ ids, id.toNat < Nat.pow 2 62) ∧
    (∃ fault, (scatter ids values out).1 = .error fault ∧ fault.kind = .outOfRange) ∧
    (scatter ids values out).2[3]? = some 7 ∧ (scatter ids values out).2[0]? = some 4 ∧
    (scatter ids values out).2[6]? = some (-1 : Float) := by
  have small : ids.all (fun id => id.toNat < Nat.pow 2 62) = true := by decide
  have narrow : ∀ id ∈ ids, id.toNat < Nat.pow 2 62 := by simpa using small
  obtain ⟨-, along, -⟩ := scatter_last_writer ids values out narrow
  obtain ⟨filled, crowded, -⟩ := along (by decide) (by decide)
  have three : firstWithoutRoom out.length ids = 3 := by decide
  rw [three] at filled crowded
  have third : LastUse ids 3 1 2 := ⟨⟨by decide, by decide⟩, fun l used => Nat.le_of_lt_succ used.1⟩
  have second : LastUse ids 3 0 1 := by
    refine ⟨⟨by decide, by decide⟩, fun l used => ?_⟩
    obtain ⟨early, same⟩ := used
    match l, early with
    | 0, _ | 1, _ => omega
    | 2, _ => cases same
  have unused : ∀ i < 3, ids[i]?.map UInt64.toNat ≠ some 2 := by decide
  exact ⟨narrow, crowded.2 (by decide), filled.used 2 1 third 0, filled.used 1 0 second 0,
    filled.unused 2 unused 0⟩

end Repeated

end FluidStructure.Surface
