import FluidStructure.Surface.Scatter
import Mathlib.Data.List.TakeWhile

/-!
# Where scattering writes

The vector with id `j` belongs to the places `3 * j`, `3 * j + 1` and `3 * j + 2`.  Range check and
writes compute these in words of 64 bits.  An id whose last place is a word, or wraps to a place that
is out of range as well, is checked as it should be; then an array is written at the places of the
ids before the first one without room, and nowhere else.  An id that wraps into the array passes the
check, and its vector goes to the places of another id.
-/

namespace FluidStructure.Surface

/-! ## Places -/

/-- The last place of the vector with an id, as a number of any size. -/
def lastPlace (id : UInt64) : Nat := 3 * id.toNat + 2

/-- The last place does not wrap into an array of this size. -/
def Checkable (size : Nat) (id : UInt64) : Prop :=
  lastPlace id < UInt64.size ∨ size ≤ lastPlace id % UInt64.size

instance (size : Nat) (id : UInt64) : Decidable (Checkable size id) :=
  inferInstanceAs (Decidable (_ ∨ _))

/-- An array of this size has room for the vector with an id. -/
def hasRoom (size : Nat) (id : UInt64) : Bool := lastPlace id < size

theorem toNat_lastComponent (id : UInt64) :
    (firstComponent id + 2).toNat = lastPlace id % UInt64.size := by
  unfold firstComponent lastPlace
  rw [UInt64.toNat_add, UInt64.toNat_mul]
  simp

/-- The range check tells whether there is room. -/
theorem checkRange_of_checkable {size : Nat} {id : UInt64} (checkable : Checkable size id) :
    Fault.checkRange (firstComponent id + 2).toNat size =
      if hasRoom size id then .ok () else .error (.indexOutOfRange (lastPlace id % UInt64.size) size) := by
  have same : lastPlace id % UInt64.size < size ↔ hasRoom size id = true := by
    unfold hasRoom
    rw [decide_eq_true_iff]
    rcases checkable with narrow | beyond
    · rw [Nat.mod_eq_of_lt narrow]
    · have less := Nat.mod_le (lastPlace id) (UInt64.size)
      omega
  unfold Fault.checkRange
  rw [toNat_lastComponent]
  exact if_congr same rfl rfl

theorem narrow_of_hasRoom {size : Nat} {id : UInt64} (checkable : Checkable size id)
    (room : hasRoom size id = true) : lastPlace id < UInt64.size := by
  rcases checkable with narrow | beyond
  · exact narrow
  · have below : lastPlace id < size := of_decide_eq_true room
    have less := Nat.mod_le (lastPlace id) (UInt64.size)
    omega

/-! ## One vector -/

/-- The components in their order. -/
def Vector3.component (v : Vector3) : Fin 3 → Float
  | 0 => v.x
  | 1 => v.y
  | 2 => v.z

section Writing

variable {id : UInt64} {v : Vector3} {out : List Float}

theorem writeVector_of_narrow (narrow : lastPlace id < UInt64.size) :
    writeVector id v out =
      ((out.set (3 * id.toNat) v.x).set (3 * id.toNat + 1) v.y).set (3 * id.toNat + 2) v.z := by
  unfold lastPlace at narrow
  have words : UInt64.size = 18446744073709551616 := rfl
  have first : (firstComponent id).toNat = 3 * id.toNat := by
    unfold firstComponent
    rw [UInt64.toNat_mul]
    exact Nat.mod_eq_of_lt (Nat.lt_of_add_right_lt narrow)
  have second : (firstComponent id + 1).toNat = 3 * id.toNat + 1 := by
    rw [UInt64.toNat_add, first]
    exact Nat.mod_eq_of_lt (by simp; omega)
  have third : (firstComponent id + 2).toNat = 3 * id.toNat + 2 :=
    (toNat_lastComponent id).trans (Nat.mod_eq_of_lt narrow)
  unfold writeVector
  rw [first, second, third]

theorem getElem?_writeVector_inside (narrow : lastPlace id < UInt64.size)
    (room : hasRoom out.length id = true) (k : Fin 3) :
    (writeVector id v out)[3 * id.toNat + k]? = some (v.component k) := by
  have below : 3 * id.toNat + 2 < out.length := of_decide_eq_true room
  rw [writeVector_of_narrow narrow]
  match k with
  | 0 =>
    rw [List.getElem?_set_ne (by simp), List.getElem?_set_ne (by simp)]
    exact List.getElem?_set_self (by omega)
  | 1 =>
    rw [List.getElem?_set_ne (by simp)]
    exact List.getElem?_set_self (by simp; omega)
  | 2 => exact List.getElem?_set_self (by simp; omega)

theorem getElem?_writeVector_outside {place : Nat} (narrow : lastPlace id < UInt64.size)
    (apart : ∀ k : Fin 3, place ≠ 3 * id.toNat + k) : (writeVector id v out)[place]? = out[place]? := by
  have first : 3 * id.toNat ≠ place := (apart 0).symm
  have second : 3 * id.toNat + 1 ≠ place := (apart 1).symm
  have third : 3 * id.toNat + 2 ≠ place := (apart 2).symm
  rw [writeVector_of_narrow narrow, List.getElem?_set_ne third, List.getElem?_set_ne second,
    List.getElem?_set_ne first]

/-! ## Vectors in turn -/

/-- Writes vectors one after the other, without a check. -/
def writeAll (writes : List (UInt64 × Vector3)) (out : List Float) : List Float :=
  writes.foldl (fun out write => writeVector write.1 write.2 out) out

variable {writes : List (UInt64 × Vector3)}

/-- The first id without room ends the writing, and what is before it is written. -/
theorem writeVectors_eq (checkable : ∀ write ∈ writes, Checkable out.length write.1) :
    writeVectors writes out =
      (match (writes.map Prod.fst).find? fun id => !hasRoom out.length id with
        | none => .ok ()
        | some id => .error (.indexOutOfRange (lastPlace id % UInt64.size) out.length),
      writeAll (writes.takeWhile fun write => hasRoom out.length write.1) out) := by
  induction writes generalizing out with
  | nil => rfl
  | cons write rest ih =>
    obtain ⟨id, v⟩ := write
    have size := length_writeVector id v out
    unfold writeVectors
    rw [checkRange_of_checkable (checkable _ List.mem_cons_self), List.map_cons, List.find?_cons,
      List.takeWhile_cons]
    cases room : hasRoom out.length id with
    | false => rfl
    | true =>
      have later := @ih (writeVector id v out) fun write member =>
        size.symm ▸ checkable write (List.mem_cons_of_mem _ member)
      rw [size] at later
      exact later

/-- Vectors that all have their room leave the other places alone. -/
theorem getElem?_writeAll_outside {place : Nat}
    (narrow : ∀ write ∈ writes, lastPlace write.1 < UInt64.size)
    (apart : ∀ write ∈ writes, ∀ k : Fin 3, place ≠ 3 * write.1.toNat + k) :
    (writeAll writes out)[place]? = out[place]? := by
  induction writes generalizing out with
  | nil => rfl
  | cons write rest ih =>
    have later := @ih (writeVector write.1 write.2 out)
      (fun other member => narrow other (List.mem_cons_of_mem _ member))
      fun other member => apart other (List.mem_cons_of_mem _ member)
    exact later.trans (getElem?_writeVector_outside (narrow write List.mem_cons_self)
      (apart write List.mem_cons_self))

/-- Of the vectors with one id the last one stays. -/
theorem getElem?_writeAll_inside {before after : List (UInt64 × Vector3)}
    (fits : ∀ write ∈ before ++ (id, v) :: after,
      lastPlace write.1 < UInt64.size ∧ hasRoom out.length write.1 = true)
    (last : ∀ write ∈ after, write.1 ≠ id) (k : Fin 3) :
    (writeAll (before ++ (id, v) :: after) out)[3 * id.toNat + k]? = some (v.component k) := by
  induction before generalizing out with
  | nil =>
    obtain ⟨narrow, room⟩ := fits (id, v) List.mem_cons_self
    have kept : (writeAll after (writeVector id v out))[3 * id.toNat + k]? =
        (writeVector id v out)[3 * id.toNat + k]? := by
      refine getElem?_writeAll_outside (fun write member => ?_) fun write member l same => ?_
      · exact (fits write (List.mem_cons_of_mem _ member)).1
      · exact last write member (UInt64.toNat_inj.1 (by omega))
    exact kept.trans (getElem?_writeVector_inside narrow room k)
  | cons write before ih =>
    refine @ih (writeVector write.1 write.2 out) fun other member => ?_
    rw [length_writeVector]
    exact fits other (List.mem_cons_of_mem _ member)

/-! ## Interface values -/

theorem length_vectors (values : List Float) : (vectors values).length = values.length / 3 := by
  fun_induction vectors values with
  | case1 x y z rest ih =>
    simp only [List.length_cons, ih]
    omega
  | case2 values short =>
    match values with
    | [] | [_] | [_, _] => simp
    | x :: y :: z :: rest => exact absurd rfl (short x y z rest)

theorem component_vectors (values : List Float) {i : Nat} (h : i < (vectors values).length)
    (k : Fin 3) : some ((vectors values)[i].component k) = values[3 * i + k]? := by
  fun_induction vectors values generalizing i with
  | case1 x y z rest ih =>
    cases i with
    | zero => match k with
      | 0 => rfl
      | 1 => rfl
      | 2 => rfl
    | succ i =>
      have place : 3 * (i + 1) + (k : Nat) = 3 * i + k + 3 := by omega
      rw [place]
      exact ih (Nat.lt_of_succ_lt_succ h)
  | case2 => exact absurd h (Nat.not_lt_zero _)

theorem takeWhile_zip (p : UInt64 → Bool) (ids : List UInt64) (vs : List Vector3) :
    (ids.zip vs).takeWhile (fun write => p write.1) = (ids.takeWhile p).zip vs := by
  induction ids generalizing vs with
  | nil => rfl
  | cons id ids ih =>
    cases vs with
    | nil => rw [List.zip_nil_right, List.zip_nil_right, List.takeWhile_nil]
    | cons v vs =>
      rw [List.zip_cons_cons, List.takeWhile_cons, List.takeWhile_cons]
      cases p id with
      | false => rfl
      | true => exact congrArg (List.cons (id, v)) (ih vs)

/-- The ids of an array that are written, up to the first one without room. -/
def reached (size : Nat) (ids : List UInt64) : List UInt64 := ids.takeWhile (hasRoom size)

variable {ids : List UInt64} {values : List Float}

theorem scatter_eq (nonempty : ids ≠ []) (matching : ids.length = values.length / 3)
    (checkable : ∀ id ∈ ids, Checkable out.length id) :
    scatter ids values out =
      (match ids.find? fun id => !hasRoom out.length id with
        | none => .ok ()
        | some id => .error (.indexOutOfRange (lastPlace id % UInt64.size) out.length),
      writeAll ((reached out.length ids).zip (vectors values)) out) := by
  have counted : Fault.require (ids.length = values.length / 3) "elt_ids.size() == n_elts"
      "id list and value count differ" = .ok () := if_pos (decide_eq_true matching)
  have fst : (ids.zip (vectors values)).map Prod.fst = ids :=
    List.map_fst_zip (Nat.le_of_eq (matching.trans (length_vectors values).symm))
  unfold scatter
  rw [if_neg (by rwa [List.isEmpty_iff]), counted]
  dsimp only
  rw [writeVectors_eq fun write member => checkable write.1 (List.of_mem_zip member).1, fst,
    takeWhile_zip (hasRoom out.length)]
  rfl

/-- The vectors at the written ids, cut at one of them. -/
theorem zip_vectors_append {before after : List UInt64} {id : UInt64} {vs : List Vector3}
    (enough : before.length < vs.length) :
    (before ++ id :: after).zip vs =
      before.zip (vs.take before.length) ++ (id, vs[before.length]) ::
        after.zip (vs.drop (before.length + 1)) := by
  have cut : vs = vs.take before.length ++ vs[before.length] :: vs.drop (before.length + 1) := by
    rw [← List.drop_eq_getElem_cons, List.take_append_drop]
  conv => lhs; rw [cut]
  rw [List.zip_append (by rw [List.length_take]; omega), List.zip_cons_cons]

/-- The vectors go to the places of the ids before the first one without room, and nowhere else: an id
without room is a fault, and of the vectors with one id the last one stays. -/
theorem scatter_in_place (nonempty : ids ≠ []) (matching : ids.length = values.length / 3)
    (checkable : ∀ id ∈ ids, 3 * id.toNat + 2 < UInt64.size ∨ out.length ≤ (3 * id.toNat + 2) % UInt64.size) :
    ((∃ fault, (scatter ids values out).1 = .error fault ∧ fault.kind = .outOfRange) ↔
      ∃ id ∈ ids, out.length ≤ 3 * id.toNat + 2) ∧
    ((∀ id ∈ ids, 3 * id.toNat + 2 < out.length) → (scatter ids values out).1 = .ok ()) ∧
    (∀ place, (scatter ids values out).2[place]? ≠ out[place]? →
      ∃ id ∈ ids.takeWhile fun id => 3 * id.toNat + 2 < out.length,
        ∃ k : Fin 3, place = 3 * id.toNat + k) ∧
    ∀ before id after, ids.takeWhile (fun id => 3 * id.toNat + 2 < out.length) = before ++ id :: after →
      id ∉ after → ∀ k : Fin 3,
        (scatter ids values out).2[3 * id.toNat + (k : Nat)]? = values[3 * before.length + (k : Nat)]? := by
  have fits : ∀ id ∈ reached out.length ids,
      lastPlace id < UInt64.size ∧ hasRoom out.length id = true := fun id member =>
    have room := List.mem_takeWhile_imp member
    ⟨narrow_of_hasRoom (checkable id ((List.takeWhile_prefix _).subset member)) room, room⟩
  have crowded (id : UInt64) : (!hasRoom out.length id) = true ↔ out.length ≤ 3 * id.toNat + 2 := by
    unfold hasRoom lastPlace
    simp
  rw [scatter_eq nonempty matching checkable]
  refine ⟨?_, fun room => ?_, fun place changed => ?_, fun before id after split last k => ?_⟩
  · cases found : ids.find? fun id => !hasRoom out.length id with
    | none =>
      refine ⟨nofun, ?_⟩
      rintro ⟨id, member, beyond⟩
      exact absurd ((crowded id).2 beyond) (List.find?_eq_none.1 found id member)
    | some id =>
      refine ⟨fun _ => ⟨id, List.mem_of_find?_eq_some found, ?_⟩, fun _ => ⟨_, rfl, rfl⟩⟩
      exact (crowded id).1 (List.find?_some (p := fun id => !hasRoom out.length id) found)
  · have none : (ids.find? fun id => !hasRoom out.length id) = none :=
      List.find?_eq_none.2 fun id member wrong =>
        absurd ((crowded id).1 wrong) (Nat.not_le.2 (room id member))
    rw [none]
  · by_contra elsewhere
    refine changed (getElem?_writeAll_outside (fun write member => ?_) fun write member k same => ?_)
    · exact (fits write.1 (List.of_mem_zip member).1).1
    · exact elsewhere ⟨write.1, (List.of_mem_zip member).1, k, same⟩
  · have most : before.length < (vectors values).length := by
      have short : (before ++ id :: after).length ≤ ids.length :=
        split ▸ (List.takeWhile_prefix _).length_le
      rw [List.length_append, List.length_cons] at short
      rw [length_vectors, ← matching]
      omega
    change reached out.length ids = _ at split
    rw [split] at fits
    dsimp only
    rw [split, zip_vectors_append most, ← component_vectors values most]
    refine getElem?_writeAll_inside (fun write member => ?_) (fun write member same => ?_) k
    · rw [← zip_vectors_append most] at member
      exact fits write.1 (List.of_mem_zip member).1
    · exact last (same ▸ (List.of_mem_zip member).1)

end Writing

namespace Beyond

def ids : List UInt64 := [1, 0x8000000000000000, 0]

def values : List Float := [1, 2, 3, 4, 5, 6, 7, 8, 9]

def out : List Float := [0, 0, 0, 0, 0, 0]

theorem checkable_ids : ∀ id ∈ ids, Checkable out.length id := by
  intro id member
  unfold ids at member
  simp only [List.mem_cons, List.not_mem_nil, or_false] at member
  rcases member with rfl | rfl | rfl
  · exact .inl (by decide)
  · exact .inr (Nat.le_of_ble_eq_true rfl)
  · exact .inl (by decide)

/-- The last place of the second id is no word, and what it wraps to is out of range as well. -/
theorem scatter_in_place_beyond :
    (∃ fault, (scatter ids values out).1 = .error fault ∧ fault.kind = .outOfRange) ∧
      (scatter ids values out).2[5]? = some 3 := by
  obtain ⟨beyond, -, -, last⟩ := @scatter_in_place out ids values (by decide) (by decide) checkable_ids
  exact ⟨beyond.2 ⟨0x8000000000000000, by decide, Nat.le_of_ble_eq_true rfl⟩,
    last [] 1 [] (by decide) nofun 2⟩

end Beyond

/-- An id that wraps passes the check, and its vector goes to the places from 2 on. -/
theorem wrapped_id_misplaced :
    ¬ ((∃ fault, (scatter [0x5555555555555556] [1, 2, 3] [0, 0, 0, 0, 0]).1 = .error fault ∧
        fault.kind = .outOfRange) ↔
      ∃ id ∈ [(0x5555555555555556 : UInt64)], 5 ≤ 3 * id.toNat + 2) ∧
    (scatter [0x5555555555555556] [1, 2, 3] [0, 0, 0, 0, 0]).2 = [0, 0, 1, 2, 3] := by
  refine ⟨fun same => ?_, rfl⟩
  obtain ⟨fault, raised, -⟩ := same.2 ⟨_, List.mem_singleton_self _, by decide⟩
  cases raised

end FluidStructure.Surface
