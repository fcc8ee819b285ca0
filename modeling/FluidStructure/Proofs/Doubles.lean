import Mathlib

/-!
# Comparing doubles

A comparison of doubles is one of their unpacked forms.  What is no number compares with nothing; all
other doubles stand in one line, in which the two zeros share a place.
-/

namespace FluidStructure

open Float.Model (UnpackedFloat)

/-! ## Comparisons and zero -/

theorem le_iff_compare (x y : Float) :
    x ≤ y ↔ (x.toModel.unpack.compare y.toModel.unpack).any (·.isLE) = true := decide_eq_true_iff

theorem lt_iff_compare (x y : Float) :
    x < y ↔ x.toModel.unpack.compare y.toModel.unpack = some .lt :=
  decide_eq_true_iff.trans beq_iff_eq

/-- A number that is not at most zero is positive. -/
theorem pos_of_not_le {x : Float} (number : x.isNaN = false) (h : ¬ x ≤ 0.0) : 0.0 < x := by
  have zero : (0.0 : Float).toModel.unpack = .zero .positive := by rfl
  rw [le_iff_compare, zero] at h
  rw [lt_iff_compare, zero]
  change x.toModel.unpack.isNaN = false at number
  cases u : x.toModel.unpack with
  | notANumber =>
    rw [u] at number
    cases number
  | zero sign =>
    rw [u] at h
    exact absurd rfl h
  | infinity sign =>
    cases sign with
    | positive => rfl
    | negative =>
      rw [u] at h
      exact absurd rfl h
  | finite sign mantissa exponent positive =>
    cases sign with
    | positive => rfl
    | negative =>
      rw [u] at h
      exact absurd rfl h

/-- What is no number is not larger than anything. -/
theorem not_lt_of_isNaN {x : Float} (nan : x.isNaN = true) (y : Float) : ¬ y < x := by
  rw [lt_iff_compare]
  change x.toModel.unpack.isNaN = true at nan
  cases u : x.toModel.unpack with
  | notANumber => cases y.toModel.unpack <;> exact fun less => nomatch less
  | _ =>
    rw [u] at nan
    cases nan

theorem isNaN_of_lt {x y : Float} (h : y < x) : x.isNaN = false := by
  rw [← Bool.not_eq_true]
  exact fun nan => not_lt_of_isNaN nan y h

/-! ## The order -/

/-- Where a number stands among all numbers; none for what is no number. -/
def rank? : UnpackedFloat → Option (Int ×ₗ Int ×ₗ Int)
  | .notANumber => none
  | .infinity .negative => some (toLex (-2, toLex (0, 0)))
  | .finite .negative mantissa exponent _ => some (toLex (-1, toLex (-exponent, -(mantissa : Int))))
  | .zero _ => some (toLex (0, toLex (0, 0)))
  | .finite .positive mantissa exponent _ => some (toLex (1, toLex (exponent, (mantissa : Int))))
  | .infinity .positive => some (toLex (2, toLex (0, 0)))

theorem compare_eq_lt_iff (a b : UnpackedFloat) :
    a.compare b = some .lt ↔ ∃ i j, rank? a = some i ∧ rank? b = some j ∧ i < j := by
  rcases a with (_ | _) | _ | _ | ⟨_ | _, m, e, _⟩ <;>
    rcases b with (_ | _) | _ | _ | ⟨_ | _, n, f, _⟩ <;>
    simp [UnpackedFloat.compare, rank?, Prod.Lex.toLex_lt_toLex, Ordering.then_eq_lt,
      compare_lt_iff_lt, Ordering.swap_eq_lt, Ordering.then_eq_gt, compare_gt_iff_gt]
  rfl

theorem lt_iff_rank (x y : Float) : x < y ↔
    ∃ i j, rank? x.toModel.unpack = some i ∧ rank? y.toModel.unpack = some j ∧ i < j :=
  (lt_iff_compare x y).trans (compare_eq_lt_iff _ _)

theorem float_lt_irrefl (x : Float) : ¬x < x := by
  rw [lt_iff_rank]
  rintro ⟨i, j, first, second, less⟩
  rw [first] at second
  cases second
  exact lt_irrefl i less

theorem float_lt_trans {x y z : Float} (h : x < y) (k : y < z) : x < z := by
  rw [lt_iff_rank] at h k ⊢
  obtain ⟨i, j, first, second, less⟩ := h
  obtain ⟨j', l, third, fourth, more⟩ := k
  rw [second] at third
  cases third
  exact ⟨i, l, first, fourth, lt_trans less more⟩

end FluidStructure
