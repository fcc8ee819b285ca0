import FluidStructure.Coupling.Overlap
import FluidStructure.Proofs.Coupling.Sizes

/-!
# Predictions in place

Output and operands of a prediction may be views into one buffer.  Elements are written in increasing
order.  An operand that starts where the output starts or later is read ahead of the writing, one that
ends before the output is not written at all.  With such operands a prediction in place gives what it
would give on copies of the operands; other elements of the buffer stay.
-/

namespace FluidStructure.Coupling.Prediction

/-! ## Views -/

/-- The view lies in the buffer. -/
def View.Inside (v : View) (buffer : List Float) : Prop := v.start + v.length ≤ buffer.length

/-- An operand whose elements are read before they are written, if they are written at all. -/
def View.ReadAhead (v out : View) : Prop :=
  out.start ≤ v.start ∨ v.start + v.length ≤ out.start

namespace View

variable {v : View} {buffer : List Float}

theorem at_eq (inside : v.Inside buffer) {i : Nat} (h : i < v.length) :
    buffer[v.start + i]? = some (v.at buffer i) := by
  unfold Inside at inside
  have bound : v.start + i < buffer.length := by omega
  simp [View.at, bound]

/-- Elements that a view has, in their order, are its content. -/
theorem content_eq {element : Nat → Float}
    (elements : ∀ i < v.length, buffer[v.start + i]? = some (element i)) :
    v.content buffer = (List.range v.length).map element := by
  apply List.ext_getElem?
  intro i
  by_cases h : i < v.length
  · rw [content, List.getElem?_take_of_lt h, List.getElem?_drop, elements i h]
    simp [h]
  · have short : (v.content buffer).length ≤ v.length := by
      rw [content, List.length_take]
      omega
    rw [List.getElem?_eq_none (by omega), List.getElem?_eq_none (by simpa using h)]

theorem content_eq_at (inside : v.Inside buffer) :
    v.content buffer = (List.range v.length).map (v.at buffer) :=
  content_eq fun _ => at_eq inside

theorem length_content (inside : v.Inside buffer) : (v.content buffer).length = v.length := by
  rw [content_eq_at inside, List.length_map, List.length_range]

end View

/-! ## Sweeps -/

section Sweeping

variable {compute : List Float → Nat → Float} {out : View} {before now : List Float} {n i : Nat}

/-- After `n` elements of a sweep these hold what is computed from the buffer as it was before, and all
else is as it was. -/
structure Swept (compute : List Float → Nat → Float) (out : View) (before : List Float) (n : Nat)
    (now : List Float) : Prop where
  size : now.length = before.length
  written : ∀ i < n, now[out.start + i]? = some (compute before i)
  kept : ∀ place, place < out.start ∨ out.start + n ≤ place → now[place]? = before[place]?

theorem swept_zero (compute : List Float → Nat → Float) (out : View) (before : List Float) :
    Swept compute out before 0 before where
  size := rfl
  written := by simp
  kept _ _ := rfl

/-- The next element is computed as if nothing had been written. -/
def Unspoilt (compute : List Float → Nat → Float) (out : View) (before : List Float) : Prop :=
  ∀ n now, n < out.length → Swept compute out before n now → compute now n = compute before n

theorem Swept.step (unspoilt : Unspoilt compute out before) (inside : out.Inside before)
    (swept : Swept compute out before n now) (more : n < out.length) :
    Swept compute out before (n + 1) (now.set (out.start + n) (compute now n)) where
  size := by rw [List.length_set, swept.size]
  written i h := by
    unfold View.Inside at inside
    by_cases last : i = n
    · subst i
      -- the only step that looks at what is read: `now` reads as `before` does
      rw [List.getElem?_set_self (by rw [swept.size]; omega), unspoilt n now more swept]
    · rw [List.getElem?_set_ne (by omega)]
      exact swept.written i (by omega)
  kept place outside := by
    rw [List.getElem?_set_ne (by omega)]
    exact swept.kept place (by omega)

/-- A sweep carries what its first elements have done to the end of the output. -/
theorem swept_sweep (unspoilt : Unspoilt compute out before) (inside : out.Inside before)
    (swept : Swept compute out before i now) (rest : i + n = out.length) :
    Swept compute out before out.length (sweep compute out i n now) := by
  induction n generalizing i now with
  | zero => rwa [← rest]
  | succ n ih =>
    apply ih
    · exact swept.step unspoilt inside (by omega)
    · omega

/-- What is written does not show in an operand that is read ahead. -/
theorem Swept.at_eq {v : View} (swept : Swept compute out before n now) (ahead : v.ReadAhead out)
    (same : v.length = out.length) (h : n < out.length) : v.at now n = v.at before n := by
  unfold View.ReadAhead at ahead
  unfold View.at
  rw [swept.kept (v.start + n) (by omega)]

end Sweeping

/-! ## Combinations -/

section Combining

variable {compute : List Float → Nat → Float} {out : View} {operands : List View}
  {condition : String} {buffer : List Float}

theorem combineInPlace_of_length (same : ∀ v ∈ operands, v.length = out.length) :
    combineInPlace out operands condition compute buffer =
      (.ok (), sweep compute out 0 out.length buffer) := by
  have fits : Fault.require (operands.all fun v => v.length = out.length) condition sizeFault =
      .ok () := Fault.require_ok_iff.2 (by simpa using same)
  rw [combineInPlace, fits]

/-- Operands of another length are refused, and nothing is written. -/
theorem combineInPlace_of_length_ne (other : ∃ v ∈ operands, v.length ≠ out.length) :
    combineInPlace out operands condition compute buffer =
      (.error (.requirement condition sizeFault), buffer) := by
  have misfit : (operands.all fun v => decide (v.length = out.length)) = false := by simpa using other
  rw [combineInPlace, misfit]
  rfl

/-! ## As on copies -/

/-- In place as on copies: the output holds the elements, and nothing else has changed. -/
structure AsCopied (out : View) (before : List Float) (element : Nat → Float)
    (result : Except Fault Unit × List Float) : Prop where
  succeeds : result.1 = .ok ()
  elements : ∀ i < out.length, result.2[out.start + i]? = some (element i)
  elsewhere : ∀ place, place < out.start ∨ out.start + out.length ≤ place →
    result.2[place]? = before[place]?

/-- A call that is turned down and leaves the buffer alone. -/
structure Refused (before : List Float) (result : Except Fault Unit × List Float) : Prop where
  fault : ∃ fault, result.1 = .error fault ∧ fault.kind = .invalidArgument
  untouched : result.2 = before

variable {c : Coefficients} {a b d : View}

theorem asCopied_of_swept (inside : out.Inside buffer)
    (same : ∀ v ∈ operands, v.length = out.length) (unspoilt : Unspoilt compute out buffer) :
    AsCopied out buffer (compute buffer)
      (combineInPlace out operands condition compute buffer) := by
  have swept := swept_sweep unspoilt inside (swept_zero compute out buffer) (Nat.zero_add _)
  rw [combineInPlace_of_length same]
  exact ⟨rfl, swept.written, swept.kept⟩

theorem refused_of_length_ne (other : ∃ v ∈ operands, v.length ≠ out.length) :
    Refused buffer (combineInPlace out operands condition compute buffer) := by
  rw [combineInPlace_of_length_ne other]
  exact ⟨⟨_, rfl, rfl⟩, rfl⟩

theorem asCopied2 (inside : out.Inside buffer) (same : a.length = out.length ∧ b.length = out.length)
    (ahead : a.ReadAhead out ∧ b.ReadAhead out) :
    AsCopied out buffer (fun i => c.two (a.at buffer i) (b.at buffer i))
      (combineInPlace2 c out a b buffer) := by
  have sizes : ∀ v ∈ [a, b], v.length = out.length := by simpa using same
  have unspoilt : Unspoilt (fun now i => c.two (a.at now i) (b.at now i)) out buffer := by
    intro n now h swept
    simp only [swept.at_eq ahead.1 same.1 h, swept.at_eq ahead.2 same.2 h]
  exact asCopied_of_swept inside sizes unspoilt

theorem asCopied3 (inside : out.Inside buffer)
    (same : a.length = out.length ∧ b.length = out.length ∧ d.length = out.length)
    (ahead : a.ReadAhead out ∧ b.ReadAhead out ∧ d.ReadAhead out) :
    AsCopied out buffer (fun i => c.three (a.at buffer i) (b.at buffer i) (d.at buffer i))
      (combineInPlace3 c out a b d buffer) := by
  have sizes : ∀ v ∈ [a, b, d], v.length = out.length := by simpa using same
  have unspoilt :
      Unspoilt (fun now i => c.three (a.at now i) (b.at now i) (d.at now i)) out buffer := by
    intro n now h swept
    simp only [swept.at_eq ahead.1 same.1 h, swept.at_eq ahead.2.1 same.2.1 h,
      swept.at_eq ahead.2.2 same.2.2 h]
  exact asCopied_of_swept inside sizes unspoilt

/-- The output of a combination in place is the combination of copies. -/
theorem combine2_contents (insides : out.Inside buffer ∧ a.Inside buffer ∧ b.Inside buffer)
    (same : a.length = out.length ∧ b.length = out.length)
    {result : Except Fault Unit × List Float}
    (copied : AsCopied out buffer (fun i => c.two (a.at buffer i) (b.at buffer i)) result) :
    combine2 c (out.content buffer) (a.content buffer) (b.content buffer) =
      .ok (out.content result.2) := by
  obtain ⟨insideOut, insideA, insideB⟩ := insides
  obtain ⟨sameA, sameB⟩ := same
  rw [combine2_ok (by simp [View.length_content, *]) (by simp [View.length_content, *]),
    View.content_eq copied.elements, View.content_eq_at insideA, View.content_eq_at insideB, sameA,
    sameB, List.zipWith_map, List.zipWith_self]

theorem combine3_contents
    (insides : out.Inside buffer ∧ a.Inside buffer ∧ b.Inside buffer ∧ d.Inside buffer)
    (same : a.length = out.length ∧ b.length = out.length ∧ d.length = out.length)
    {result : Except Fault Unit × List Float}
    (copied : AsCopied out buffer
      (fun i => c.three (a.at buffer i) (b.at buffer i) (d.at buffer i)) result) :
    combine3 c (out.content buffer) (a.content buffer) (b.content buffer) (d.content buffer) =
      .ok (out.content result.2) := by
  obtain ⟨insideOut, insideA, insideB, insideD⟩ := insides
  obtain ⟨sameA, sameB, sameD⟩ := same
  rw [combine3_ok (by simp [View.length_content, *]) (by simp [View.length_content, *])
      (by simp [View.length_content, *]),
    View.content_eq copied.elements, View.content_eq_at insideA, View.content_eq_at insideB,
    View.content_eq_at insideD, sameA, sameB, sameD, List.zipWith_map, List.zipWith_self,
    List.zipWith_map, List.zipWith_self]

end Combining

/-- Predictions in place.  With operands that are read ahead of the writing the output holds the linear
combination of the operands as they were, as if these had been copied out first, and no other element
changes.  Operands of another length are refused and leave the whole buffer alone. -/
theorem predictions_in_place (c : Coefficients) (buffer : List Float) (out a b d : View)
    (inside : out.Inside buffer ∧ a.Inside buffer ∧ b.Inside buffer ∧ d.Inside buffer) :
    (a.length = out.length ∧ b.length = out.length → a.ReadAhead out ∧ b.ReadAhead out →
      AsCopied out buffer (fun i => c.c1 * a.at buffer i + c.c2 * b.at buffer i)
          (combineInPlace2 c out a b buffer) ∧
        combine2 c (out.content buffer) (a.content buffer) (b.content buffer) =
          .ok (out.content (combineInPlace2 c out a b buffer).2)) ∧
    (a.length ≠ out.length ∨ b.length ≠ out.length →
      Refused buffer (combineInPlace2 c out a b buffer)) ∧
    (a.length = out.length ∧ b.length = out.length ∧ d.length = out.length →
      a.ReadAhead out ∧ b.ReadAhead out ∧ d.ReadAhead out →
      AsCopied out buffer
          (fun i => c.c1 * a.at buffer i + c.c2 * b.at buffer i + c.c3 * d.at buffer i)
          (combineInPlace3 c out a b d buffer) ∧
        combine3 c (out.content buffer) (a.content buffer) (b.content buffer) (d.content buffer) =
          .ok (out.content (combineInPlace3 c out a b d buffer).2)) ∧
    (a.length ≠ out.length ∨ b.length ≠ out.length ∨ d.length ≠ out.length →
      Refused buffer (combineInPlace3 c out a b d buffer)) := by
  obtain ⟨insideOut, insideA, insideB, insideD⟩ := inside
  refine ⟨fun same ahead => ?_, fun other => ?_, fun same ahead => ?_, fun other => ?_⟩
  · have copied := asCopied2 (c := c) insideOut same ahead
    exact ⟨copied, combine2_contents ⟨insideOut, insideA, insideB⟩ same copied⟩
  · exact refused_of_length_ne (by simpa using other)
  · have copied := asCopied3 (c := c) insideOut same ahead
    exact ⟨copied, combine3_contents ⟨insideOut, insideA, insideB, insideD⟩ same copied⟩
  · exact refused_of_length_ne (by simpa using other)

/-- An operand that starts before the output and reaches into it is read after it was written: the
second element is computed from the first result. -/
example (c : Coefficients) (x y z : Float) :
    (combineInPlace2 c ⟨1, 2⟩ ⟨0, 2⟩ ⟨0, 2⟩ [x, y, z]).2 =
      [x, c.two x x, c.two (c.two x x) (c.two x x)] := rfl

namespace Overlapping

def buffer : List Float := [1, 2, 3, 4, 5, 6, 7]

def coefficients : Coefficients := { c1 := 2, c2 := -1, c3 := 0.5 }

/-- The first operand begins inside the output, the second is the output, the third ends before it. -/
theorem predictions_in_place_overlapping :
    (combineInPlace3 coefficients ⟨3, 3⟩ ⟨4, 3⟩ ⟨3, 3⟩ ⟨0, 3⟩ buffer).2[4]? =
      some (2 * 6 + -1 * 5 + 0.5 * 2 : Float) ∧
    (combineInPlace2 coefficients ⟨3, 3⟩ ⟨4, 3⟩ ⟨3, 3⟩ buffer).2[5]? = some (2 * 7 + -1 * 6 : Float) ∧
    (combineInPlace2 coefficients ⟨3, 3⟩ ⟨4, 2⟩ ⟨3, 3⟩ buffer).2 = buffer ∧
    (combineInPlace3 coefficients ⟨3, 3⟩ ⟨4, 2⟩ ⟨3, 3⟩ ⟨0, 3⟩ buffer).2 = buffer := by
  have insides : View.Inside ⟨3, 3⟩ buffer ∧ View.Inside ⟨4, 3⟩ buffer ∧ View.Inside ⟨3, 3⟩ buffer ∧
      View.Inside ⟨0, 3⟩ buffer := by
    unfold View.Inside
    decide
  have shorter : View.Inside ⟨3, 3⟩ buffer ∧ View.Inside ⟨4, 2⟩ buffer ∧ View.Inside ⟨3, 3⟩ buffer ∧
      View.Inside ⟨0, 3⟩ buffer := by
    unfold View.Inside
    decide
  have later : View.ReadAhead ⟨4, 3⟩ ⟨3, 3⟩ := .inl (by decide)
  have equal : View.ReadAhead ⟨3, 3⟩ ⟨3, 3⟩ := .inl (by decide)
  have apart : View.ReadAhead ⟨0, 3⟩ ⟨3, 3⟩ := .inr (by decide)
  obtain ⟨two, -, three, -⟩ := predictions_in_place coefficients buffer _ _ _ _ insides
  obtain ⟨-, refused2, -, refused3⟩ := predictions_in_place coefficients buffer _ _ _ _ shorter
  exact ⟨(three ⟨rfl, rfl, rfl⟩ ⟨later, equal, apart⟩).1.elements 1 (by decide),
    (two ⟨rfl, rfl⟩ ⟨later, equal⟩).1.elements 2 (by decide),
    (refused2 (.inl (by decide))).untouched, (refused3 (.inl (by decide))).untouched⟩

end Overlapping

end FluidStructure.Coupling.Prediction
