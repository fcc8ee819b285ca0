/-!
# Overwriting

New values take the places of the first old ones.  The number of values stays.
-/

namespace FluidStructure

/-- Values in place of the first of some others.  Surplus ones are left out. -/
def overwrite {α : Type} (old new : List α) : List α :=
  new.take old.length ++ old.drop new.length

theorem length_overwrite {α : Type} (old new : List α) :
    (overwrite old new).length = old.length := by
  simp [overwrite]; omega

theorem overwrite_map {α β : Type} (f : α → β) (old new : List α) :
    overwrite (old.map f) (new.map f) = (overwrite old new).map f := by
  simp [overwrite]

/-- Behind the new values the old ones are as before. -/
theorem drop_overwrite {α : Type} {old new : List α} {n : Nat} (reach : new.length ≤ n) :
    (overwrite old new).drop n = old.drop n := by
  unfold overwrite
  rw [List.drop_append, List.drop_drop, List.drop_eq_nil_of_le (by simp; omega), List.nil_append]
  by_cases fits : new.length ≤ old.length
  · rw [List.take_of_length_le fits]
    congr 1
    omega
  · rw [List.drop_eq_nil_of_le (by omega), List.drop_eq_nil_of_le (by omega)]

theorem overwrite_of_le {α : Type} {old new : List α} (fits : new.length ≤ old.length) :
    overwrite old new = new ++ old.drop new.length := by
  unfold overwrite
  rw [List.take_of_length_le fits]

theorem overwrite_of_eq {α : Type} {old new : List α} (same : new.length = old.length) :
    overwrite old new = new := by
  rw [overwrite_of_le (Nat.le_of_eq same), same, List.drop_length, List.append_nil]

end FluidStructure
