import FluidStructure.Config.Section
import FluidStructure.Proofs.Config.Grammar

/-!
# Arrays of texts

A list of texts, written as an array of quoted items, stored and read back.  Quotes protect all that
an item holds, its own quotes, brackets, blanks and digits included, but not commas: the array is cut
at every comma, and a text that holds one comes back in pieces.  An array without items holds no text
and is read as an array of integers, which the reading of a text array refuses.
-/

namespace FluidStructure.Config

open FluidStructure.Text

namespace Literal

/-- A text in double quotes. -/
def enquote (s : String) : List Char := '"' :: (s.toList ++ ['"'])

/-- An array of texts: each in double quotes, a comma and a space between two. -/
def textArray (ss : List String) : List Char :=
  '[' :: ([',', ' '].intercalate (ss.map enquote) ++ [']'])

/-- What comes back of one text of an array: its pieces between commas, as items of their own. -/
def torn (s : String) : List String := (entries (enquote s)).map unquote

variable {cs : List Char} {s : String}

/-! ## Items between commas -/

theorem entries_append (before behind : List Char) :
    entries (before ++ ',' :: behind) = entries before ++ entries behind := by
  unfold entries
  rw [List.splitOn_append_cons_self, List.map_append, List.filter_append]

/-- A blank in front of an item is not part of it. -/
theorem entries_cons_blank {c : Char} (blank : isBlank c = true) (other : c ≠ ',') (cs : List Char) :
    entries (c :: cs) = entries cs := by
  unfold entries
  rw [List.splitOn_cons_eq_if_modifyHead, if_neg (by simpa using other)]
  cases pieces : cs.splitOn ',' with
  | nil => rfl
  | cons first others =>
    have same : trim ([c] ++ first) = trim first :=
      trim_blanks_append (List.forall_mem_singleton.2 blank)
    rw [List.singleton_append] at same
    rw [List.modifyHead_cons, List.map_cons, List.map_cons, same]

/-- The items of an array are those of its parts. -/
theorem entries_intercalate (parts : List (List Char)) :
    entries ([',', ' '].intercalate parts) = parts.flatMap entries := by
  induction parts with
  | nil => rfl
  | cons part rest ih =>
    cases rest with
    | nil => simp
    | cons next rest =>
      rw [List.intercalate_cons_cons, List.append_assoc, List.cons_append, List.singleton_append,
        entries_append, entries_cons_blank rfl (by decide), ih, ← List.flatMap_cons]

/-- An item is left where there is a character that is neither blank nor a comma. -/
theorem entries_ne_nil {c : Char} (member : c ∈ cs) (content : isBlank c = false) (other : c ≠ ',') :
    entries cs ≠ [] := by
  have whole : [','].intercalate (cs.splitOn ',') = cs := List.intercalate_splitOn ','
  rw [← whole] at member
  rcases mem_intercalate member with rfl | ⟨piece, within, inside⟩
  · exact absurd rfl other
  · have kept : trim piece ∈ entries cs := by
      refine List.mem_filter.2 ⟨List.mem_map_of_mem within, decide_eq_true fun empty => ?_⟩
      rw [trim_eq_nil_iff] at empty
      exact Bool.false_ne_true (content.symm.trans (empty c inside))
    exact List.ne_nil_of_mem kept

/-- A quote in front begins an item. -/
theorem exists_quote_mem_entries (cs : List Char) : ∃ rest, '"' :: rest ∈ entries ('"' :: cs) := by
  cases pieces : cs.splitOn ',' with
  | nil => exact absurd pieces (List.splitOn_ne_nil ',' cs)
  | cons first others =>
    refine ⟨trimRight first, List.mem_filter.2 ⟨List.mem_map.2 ⟨'"' :: first, ?_, ?_⟩, rfl⟩⟩
    · rw [List.splitOn_cons_eq_if_modifyHead, if_neg (by decide), pieces]
      exact List.mem_cons_self
    · exact trim_append_cons (by decide) [] first

/-! ## The items of one text -/

theorem tight_enquote (s : String) : Tight (enquote s) := by
  rw [enquote, ← List.cons_append]
  exact tight_of_ends (by decide) (by decide)

theorem unquote_enquote (s : String) : unquote (enquote s) = s := by
  rw [unquote_iff]
  have bare := Bare.quoted (Quoted.double s.toList)
  rwa [String.ofList_toList] at bare

/-- A text without commas comes back whole. -/
theorem torn_of_not_mem (whole : ',' ∉ s.toList) : torn s = [s] := by
  have apart : ',' ∉ enquote s := by simpa [enquote] using whole
  have one : entries (enquote s) = [enquote s] := by
    unfold entries
    rw [List.splitOn_eq_singleton apart, List.map_singleton, (tight_enquote s).trim_eq]
    rfl
  rw [torn, one, List.map_singleton, unquote_enquote]

/-- A comma leaves an item on either side, since each side has one of the quotes. -/
theorem one_lt_length_torn (comma : ',' ∈ s.toList) : 1 < (torn s).length := by
  obtain ⟨before, behind, same⟩ := List.append_of_mem comma
  have left : entries ('"' :: before) ≠ [] := by
    obtain ⟨rest, member⟩ := exists_quote_mem_entries before
    exact List.ne_nil_of_mem member
  have right : entries (behind ++ ['"']) ≠ [] :=
    entries_ne_nil (c := '"') (by simp) (by decide) (by decide)
  have parts : enquote s = ('"' :: before) ++ ',' :: (behind ++ ['"']) := by
    simp [enquote, same]
  rw [torn, List.length_map, parts, entries_append, List.length_append]
  have := List.length_pos_iff.2 left
  have := List.length_pos_iff.2 right
  omega

theorem length_torn_pos (s : String) : 0 < (torn s).length := by
  by_cases comma : ',' ∈ s.toList
  · have := one_lt_length_torn comma
    omega
  · rw [torn_of_not_mem comma]
    exact Nat.one_pos

/-- A list of texts comes back as it was exactly if no text holds a comma. -/
theorem flatMap_torn_iff {ss : List String} : ss.flatMap torn = ss ↔ ∀ s ∈ ss, ',' ∉ s.toList := by
  have grows (ss : List String) : ss.length ≤ (ss.flatMap torn).length := by
    induction ss with
    | nil => rfl
    | cons s ss ih =>
      have := length_torn_pos s
      rw [List.flatMap_cons, List.length_append, List.length_cons]
      omega
  induction ss with
  | nil => simp
  | cons s ss ih =>
    rw [List.flatMap_cons, List.forall_mem_cons]
    refine Iff.trans ?_ (and_congr_right' ih)
    by_cases comma : ',' ∈ s.toList
    · refine iff_of_false (fun same => ?_) fun both => both.1 comma
      have longer := congrArg List.length same
      have := one_lt_length_torn comma
      have := grows ss
      rw [List.length_append, List.length_cons] at longer
      omega
    · rw [torn_of_not_mem comma, List.singleton_append, List.cons.injEq]
      simp [comma]

/-- A list of texts, read as a literal. -/
theorem parse_textArray (ss : List String) :
    parse (textArray ss) = if ss = [] then .ints [] else .texts (ss.flatMap torn) := by
  have tight : Tight (textArray ss) := by
    rw [textArray, ← List.cons_append]
    exact tight_of_ends (by decide) (by decide)
  unfold parse
  rw [tight.trim_eq, textArray, ofTrimmed_brackets, entries_intercalate]
  cases ss with
  | nil => rfl
  | cons s ss =>
    rw [if_neg (List.cons_ne_nil s ss), array_of_not_numeral]
    · rw [List.flatMap_map, List.map_flatMap]
      rfl
    · obtain ⟨rest, member⟩ := exists_quote_mem_entries (s.toList ++ ['"'])
      refine ⟨_, List.mem_flatMap.2 ⟨_, List.mem_map_of_mem List.mem_cons_self, member⟩, ?_⟩
      intro x numeral
      obtain ⟨c, more, same, -, quote, -⟩ := start_of_numeral numeral
      cases same
      exact quote rfl

end Literal

/-- A list of texts that is stored as an array of quoted texts comes back as their pieces between
commas, and an empty one is refused.  So it comes back as it was exactly if it has a text and no text
holds a comma. -/
theorem getTexts_textArray (s : Section) (key : String) (ss : List String) :
    (s.set key (Literal.parse (Literal.textArray ss))).getTexts key =
        (if ss = [] then .error (.valueType s.name key "string array")
          else .ok (ss.flatMap Literal.torn)) ∧
      ((s.set key (Literal.parse (Literal.textArray ss))).getTexts key = .ok ss ↔
        ss ≠ [] ∧ ∀ t ∈ ss, ',' ∉ t.toList) := by
  have read : (s.set key (Literal.parse (Literal.textArray ss))).getTexts key =
      if ss = [] then .error (.valueType s.name key "string array")
      else .ok (ss.flatMap Literal.torn) := by
    unfold Section.set Section.getTexts Section.getWith
    rw [Section.values, KeyMap.get?_put_self, Literal.parse_textArray]
    cases ss with
    | nil => rfl
    | cons t ss => rfl
  refine ⟨read, ?_⟩
  rw [read, ← Literal.flatMap_torn_iff]
  split
  · simp [*]
  · simp [*]

/-- A text with a comma comes back in two pieces, each with one of the quotes, and no text at all is
refused. -/
theorem textArray_lost :
    ((Section.empty "root").set "names" (Literal.parse (Literal.textArray ["a,b"]))).getTexts "names" =
        .ok ["\"a", "b\""] ∧
      ((Section.empty "root").set "none" (Literal.parse (Literal.textArray []))).getTexts "none" =
        .error (.valueType "root" "none" "string array") :=
  ⟨rfl, rfl⟩

end FluidStructure.Config
