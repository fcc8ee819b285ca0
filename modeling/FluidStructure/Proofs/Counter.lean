/-!
# Counters

A counter of 32 bits counts up by one as long as it is not full, and never by more.
-/

namespace FluidStructure

theorem toInt_add_one {i : Int32} (room : i ≠ Int32.maxValue) : (i + 1).toInt = i.toInt + 1 := by
  have low := i.le_toInt
  have high : i.toInt ≠ 2 ^ 31 - 1 := fun full => room (Int32.toInt_inj.1 full)
  have below := i.toInt_lt
  rw [Int32.toInt_add]
  exact Int.bmod_eq_of_le (by simp; omega) (by simp; omega)

theorem toInt_add_one_le (i : Int32) : (i + 1).toInt ≤ i.toInt + 1 := by
  by_cases full : i = Int32.maxValue
  · rw [full]
    decide
  · exact Int.le_of_eq (toInt_add_one full)

theorem maxValue_add_one : Int32.maxValue + 1 = Int32.minValue := rfl

theorem not_lt_minValue (i : Int32) : ¬i < Int32.minValue :=
  Int32.not_lt.2 (Int32.le_iff_toInt_le.2 i.le_toInt)

theorem lt_maxValue_iff {i : Int32} : i < Int32.maxValue ↔ i ≠ Int32.maxValue := by
  have most := i.toInt_le
  rw [Int32.lt_iff_toInt_lt, ne_eq, ← Int32.toInt_inj]
  omega

theorem lt_add_one_iff {i j : Int32} (room : j ≠ Int32.maxValue) : i < j + 1 ↔ i ≤ j := by
  rw [Int32.lt_iff_toInt_lt, Int32.le_iff_toInt_le, toInt_add_one room]
  exact Int.lt_add_one_iff

theorem add_one_le_add_one {i j : Int32} (room : j ≠ Int32.maxValue) (h : i ≤ j) :
    i + 1 ≤ j + 1 := by
  have least := toInt_add_one_le i
  rw [Int32.le_iff_toInt_le] at h ⊢
  rw [toInt_add_one room]
  omega

theorem zero_lt_add_one {i : Int32} (h : 0 ≤ i) (room : i ≠ Int32.maxValue) : 0 < i + 1 := by
  have low := Int32.le_iff_toInt_le.1 h
  have zero : (0 : Int32).toInt = 0 := rfl
  rw [Int32.lt_iff_toInt_lt, toInt_add_one room]
  omega

end FluidStructure
