import FluidStructure.Text.Blank
import Mathlib.Data.List.DropRight

/-!
# Text and the blanks around it

Trimming takes the blanks at both ends away and nothing else, so blanks that are added there do not
matter, and text that neither begins nor ends with a blank stays as it is.
-/

namespace FluidStructure.Text

variable {cs before behind : List Char} {c : Char}

theorem trim_eq_nil_iff : trim cs = [] ↔ ∀ c ∈ cs, isBlank c = true := by
  refine List.rdropWhile_eq_nil_iff.trans ⟨fun blank c member => ?_, fun blank c member =>
    blank c ((List.dropWhile_suffix isBlank).subset member)⟩
  rw [← List.takeWhile_append_dropWhile (p := isBlank) (l := cs)] at member
  rcases List.mem_append.1 member with first | later
  · exact List.mem_takeWhile_imp first
  · exact blank c later

/-- Blanks in front do not matter. -/
theorem trim_blanks_append (blank : ∀ c ∈ before, isBlank c = true) :
    trim (before ++ cs) = trim cs := by
  unfold trim
  rw [List.dropWhile_append_of_pos blank]

theorem trimRight_append_blanks (blank : ∀ c ∈ behind, isBlank c = true) :
    trimRight (cs ++ behind) = trimRight cs := by
  unfold trimRight
  rw [List.reverse_append, List.dropWhile_append_of_pos fun c member =>
    blank c (List.mem_reverse.1 member)]

/-- Blanks behind do not matter. -/
theorem trim_append_blanks (blank : ∀ c ∈ behind, isBlank c = true) :
    trim (cs ++ behind) = trim cs := by
  by_cases all : ∀ c ∈ cs, isBlank c = true
  · rw [trim_blanks_append all, trim_eq_nil_iff.2 all, trim_eq_nil_iff.2 blank]
  · unfold trim
    rw [List.dropWhile_append, if_neg, trimRight_append_blanks blank]
    rwa [List.isEmpty_iff, List.dropWhile_eq_nil_iff]

theorem trim_trimRight (cs : List Char) : trim (trimRight cs) = trim cs := by
  conv_rhs => rw [← List.rdropWhile_append_rtakeWhile (p := isBlank) (l := cs)]
  exact (trim_append_blanks fun c member => List.mem_rtakeWhile_imp member).symm

theorem trim_dropWhile (cs : List Char) : trim (cs.dropWhile isBlank) = trim cs := by
  unfold trim
  rw [List.dropWhile_idempotent]

/-- Trimmed text has nothing more to trim. -/
theorem trim_trim (cs : List Char) : trim (trim cs) = trim cs :=
  (trim_trimRight _).trans (trim_dropWhile cs)

/-- A character that is not blank parts the trimming of the two ends. -/
theorem trim_append_cons (h : isBlank c = false) (before behind : List Char) :
    trim (before ++ c :: behind) = before.dropWhile isBlank ++ c :: trimRight behind := by
  have left : (before ++ c :: behind).dropWhile isBlank =
      before.dropWhile isBlank ++ c :: behind := by
    rw [List.dropWhile_append]
    split
    · rename_i empty
      rw [List.isEmpty_iff.1 empty, List.dropWhile_cons_of_neg (by rw [h]; decide)]
      rfl
    · rfl
  unfold trim trimRight
  rw [left, List.reverse_append, List.reverse_cons, List.append_assoc, List.dropWhile_append]
  split
  · rename_i empty
    rw [List.isEmpty_iff.1 empty, List.singleton_append,
      List.dropWhile_cons_of_neg (by rw [h]; decide)]
    simp
  · simp

theorem mem_of_mem_trim (member : c ∈ trim cs) : c ∈ cs :=
  (List.dropWhile_suffix isBlank).subset ((List.rdropWhile_prefix isBlank _).subset member)

/-- Text that neither begins nor ends with a blank. -/
structure Tight (cs : List Char) : Prop where
  first : cs.head?.any isBlank = false
  last : cs.getLast?.any isBlank = false

theorem Tight.trim_eq (h : Tight cs) : trim cs = cs := by
  have left : cs.dropWhile isBlank = cs := by
    cases cs with
    | nil => rfl
    | cons c rest => exact List.dropWhile_cons_of_neg (Bool.eq_false_iff.1 h.first)
  unfold trim
  rw [left]
  refine List.rdropWhile_eq_self_iff.2 fun some => Bool.eq_false_iff.1 ?_
  have last := h.last
  rwa [List.getLast?_eq_some_getLast some] at last

/-- No piece holds the separator. -/
theorem not_mem_of_mem_pieces {separator : Char} {piece : List Char}
    (h : piece ∈ pieces separator cs) : separator ∉ piece := by
  induction cs generalizing piece with
  | nil =>
    rw [List.mem_singleton.1 h]
    exact List.not_mem_nil
  | cons c rest ih =>
    unfold pieces at h
    split at h
    · rcases List.mem_cons.1 h with rfl | later
      · exact List.not_mem_nil
      · exact ih later
    · rename_i other
      split at h
      · rename_i empty
        exact absurd empty (pieces_ne_nil separator rest)
      · rename_i first others pieces
        rw [pieces] at ih
        rcases List.mem_cons.1 h with rfl | later
        · rintro (_ | _)
          · exact other rfl
          · exact ih List.mem_cons_self ‹_›
        · exact ih (List.mem_cons_of_mem _ later)

end FluidStructure.Text
