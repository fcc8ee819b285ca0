import FluidStructure.Config.Literal
import FluidStructure.Proofs.Config.Placement
import Mathlib.Data.List.Forall2

/-!
# Values as they are written

A value that is written in its own form is read back.  What is written holds no line end, has no
blanks at its ends, and stays as it is where comments are taken off.
-/

namespace FluidStructure.Decimal

/-! ## Numbers -/

theorem digitValue_digitChar {n : Nat} (h : n < 10) : digitValue n.digitChar = n := by
  unfold digitValue
  rw [Nat.isDigit_digitChar, decide_eq_true h, if_pos rfl]
  exact Nat.toNat_digitChar_sub_48_of_lt_ten h

theorem digitsValue_toDigits (n : Nat) : digitsValue 10 (Nat.toDigits 10 n) = n := by
  induction n using Nat.strongRecOn with
  | ind n ih =>
    rcases Nat.lt_or_ge n 10 with one | more
    · rw [Nat.toDigits_of_lt_base one]
      show 10 * 0 + digitValue n.digitChar = n
      rw [digitValue_digitChar one]
      omega
    · have rest := ih (n / 10) (by omega)
      unfold digitsValue at rest
      rw [Nat.toDigits_of_base_le (by decide) more]
      unfold digitsValue
      rw [List.foldl_append, rest]
      show 10 * (n / 10) + digitValue (n % 10).digitChar = n
      rw [digitValue_digitChar (Nat.mod_lt n (by decide))]
      omega

theorem isDigits_toDigits (n : Nat) : isDigits (Nat.toDigits 10 n) = true := by
  unfold isDigits
  rw [Bool.and_eq_true, List.all_eq_true]
  refine ⟨?_, fun c member => Nat.isDigit_of_mem_toDigits (by decide) (by decide) member⟩
  rw [Bool.not_eq_true', List.isEmpty_eq_false_iff]
  exact Nat.toDigits_ne_nil

/-- An integer in decimal. -/
def digits (i : Int32) : List Char := (toString i.toInt).toList

/-- The digits, behind a minus for a negative integer. -/
theorem digits_cases (i : Int32) :
    (0 ≤ i.toInt ∧ digits i = Nat.toDigits 10 i.toInt.toNat) ∨
      i.toInt < 0 ∧ digits i = '-' :: Nat.toDigits 10 (-i.toInt).toNat := by
  unfold digits
  rw [Int.toString_eq_repr, Int.repr_eq_if]
  split
  · rename_i positive
    exact .inl ⟨positive, by simp [Nat.repr]⟩
  · rename_i negative
    exact .inr ⟨Int.not_le.1 negative, by simp [Nat.repr]⟩

/-- The first character of an integer. -/
theorem digits_head (i : Int32) :
    ∃ c rest, digits i = c :: rest ∧ (c.isDigit = true ∨ c = '-') := by
  rcases digits_cases i with ⟨-, same⟩ | ⟨-, same⟩
  · cases some : Nat.toDigits 10 i.toInt.toNat with
    | nil => exact absurd some Nat.toDigits_ne_nil
    | cons c rest =>
      exact ⟨c, rest, same.trans some, .inl (Nat.isDigit_of_mem_toDigits (by decide) (by decide)
        (some ▸ List.mem_cons_self))⟩
  · exact ⟨'-', _, same, .inr rfl⟩

theorem digits_mem {i : Int32} {c : Char} (h : c ∈ digits i) : c.isDigit = true ∨ c = '-' := by
  rcases digits_cases i with ⟨-, same⟩ | ⟨-, same⟩
  · rw [same] at h
    exact .inl (Nat.isDigit_of_mem_toDigits (by decide) (by decide) h)
  · rw [same] at h
    rcases List.mem_cons.1 h with rfl | digit
    · exact .inr rfl
    · exact .inl (Nat.isDigit_of_mem_toDigits (by decide) (by decide) digit)

/-- An integer that 32 bits hold. -/
def within (v : Int) : Option Int32 :=
  if -2147483648 ≤ v ∧ v ≤ 2147483647 then some (Int32.ofInt v) else none

theorem within_toInt (i : Int32) : within i.toInt = some i := by
  have low := i.le_toInt
  have high := i.toInt_lt
  unfold within
  rw [if_pos (by omega), Int32.ofInt_toInt]

theorem integer?_minus {ds : List Char} (h : isDigits ds = true) :
    integer? ('-' :: ds) = within (-(digitsValue 10 ds : Int)) := by
  show (if isDigits ds then some (-(digitsValue 10 ds : Int)) else none).bind within = _
  rw [if_pos h]
  rfl

theorem integer?_isDigits {ds : List Char} (h : isDigits ds = true) :
    integer? ds = within (digitsValue 10 ds) := by
  have sign {c : Char} {rest : List Char} (other : c.isDigit = false) : ds ≠ c :: rest := by
    rintro rfl
    rw [(Bool.and_eq_true_iff.1 (Bool.and_eq_true_iff.1 h).2).1] at other
    cases other
  unfold integer?
  split
  · exact absurd rfl (sign (by decide))
  · dsimp only
    split
    · exact absurd rfl (sign (by decide))
    · rw [if_pos h]
      rfl

/-- An integer in decimal is read back. -/
theorem integer?_digits (i : Int32) : integer? (digits i) = some i := by
  rcases digits_cases i with ⟨positive, same⟩ | ⟨negative, same⟩
  · rw [same, integer?_isDigits (isDigits_toDigits _), digitsValue_toDigits,
      Int.toNat_of_nonneg positive, within_toInt]
  · rw [same, integer?_minus (isDigits_toDigits _), digitsValue_toDigits,
      Int.toNat_of_nonneg (by omega), Int.neg_neg, within_toInt]

end FluidStructure.Decimal

namespace FluidStructure.Text

/-! ## Lists of pieces -/

theorem mem_intercalate {separator c : Char} {parts : List (List Char)}
    (h : c ∈ [separator].intercalate parts) : c = separator ∨ ∃ part ∈ parts, c ∈ part := by
  induction parts with
  | nil => cases h
  | cons part rest ih =>
    cases rest with
    | nil =>
      rw [List.intercalate_singleton] at h
      exact .inr ⟨part, List.mem_cons_self, h⟩
    | cons next rest =>
      rw [List.intercalate_cons_cons, List.mem_append, List.mem_append, List.mem_singleton] at h
      rcases h with (first | same) | later
      · exact .inr ⟨part, List.mem_cons_self, first⟩
      · exact .inl same
      · rcases ih later with same | ⟨other, member, inside⟩
        · exact .inl same
        · exact .inr ⟨other, List.mem_cons_of_mem _ member, inside⟩

/-- Pieces that are joined by a separator fall into the same pieces. -/
theorem pieces_intercalate {separator : Char} {parts : List (List Char)} (some : parts ≠ [])
    (apart : ∀ part ∈ parts, separator ∉ part) :
    pieces separator ([separator].intercalate parts) = parts := by
  induction parts with
  | nil => exact absurd rfl some
  | cons part rest ih =>
    obtain ⟨here, later⟩ := List.forall_mem_cons.1 apart
    cases rest with
    | nil =>
      rw [List.intercalate_singleton]
      exact pieces_of_not_mem separator part here
    | cons next rest =>
      rw [List.intercalate_cons_cons, List.append_assoc, List.singleton_append,
        pieces_append_separator separator part _ here, ih (List.cons_ne_nil _ _) later]

end FluidStructure.Text

namespace FluidStructure.Config

open FluidStructure.Decimal FluidStructure.Text

/-! ## Text that holds no comment -/

/-- A character that means nothing to comments and line ends. -/
def isInert (c : Char) : Bool := c ≠ '#' && c ≠ '"' && c ≠ '\'' && c ≠ '\n'

/-- Whatever follows, the text itself is no comment and leaves no quote open. -/
def Passes (cs : List Char) : Prop :=
  ∀ rest, Line.stripCommentFrom none (cs ++ rest) = cs ++ Line.stripCommentFrom none rest

theorem Passes.append {first second : List Char} (h : Passes first) (k : Passes second) :
    Passes (first ++ second) := fun rest => by
  rw [List.append_assoc, h, k, List.append_assoc]

theorem passes_of_inert {cs : List Char} (h : ∀ c ∈ cs, isInert c = true) : Passes cs := by
  intro rest
  induction cs with
  | nil => rfl
  | cons c cs ih =>
    obtain ⟨inert, later⟩ := List.forall_mem_cons.1 h
    unfold isInert at inert
    rw [List.cons_append, Line.stripCommentFrom, if_neg (by grind), if_neg (by grind), ih later]
    rfl

/-- Within quotes there is no comment. -/
theorem stripCommentFrom_quoted {quote : Char} {cs : List Char} (h : quote ∉ cs)
    (rest : List Char) :
    Line.stripCommentFrom (some quote) (cs ++ quote :: rest) =
      cs ++ quote :: Line.stripCommentFrom none rest := by
  induction cs with
  | nil => simp [Line.stripCommentFrom]
  | cons c cs ih =>
    obtain ⟨other, later⟩ := not_or.1 (mt List.mem_cons.2 h)
    rw [List.cons_append, Line.stripCommentFrom, if_neg (Ne.symm other), ih later]
    rfl

theorem passes_quoted {cs : List Char} (h : '"' ∉ cs) : Passes ('"' :: cs ++ ['"']) := by
  intro rest
  show Line.stripCommentFrom none ('"' :: ((cs ++ ['"']) ++ rest)) = _
  rw [List.append_assoc, List.singleton_append]
  show '"' :: Line.stripCommentFrom (some '"') (cs ++ '"' :: rest) = _
  rw [stripCommentFrom_quoted h]
  simp

/-! ## Values -/

/-- Values that have a written form: quoted text cannot hold its quote or a line end, and reals and
lists of anything but integers have no form of their own. -/
def Value.Writable : Value → Prop
  | .int _ | .bool _ | .ints _ => True
  | .text s => '"' ∉ s.toList ∧ '\n' ∉ s.toList
  | .real _ | .reals _ | .texts _ => False

/-- An integer as an item of an array, with spaces around it. -/
def Item (i : Int32) (part : List Char) : Prop :=
  ∃ before behind, (∀ c ∈ before, isSpace c = true) ∧ (∀ c ∈ behind, isSpace c = true) ∧
    part = before ++ digits i ++ behind

theorem item_digits (i : Int32) : Item i (digits i) :=
  ⟨[], [], List.forall_mem_nil _, List.forall_mem_nil _, (List.append_nil _).symm⟩

/-- How a value is written. -/
inductive Spells : Value → List Char → Prop
  | int (i : Int32) : Spells (.int i) (digits i)
  | true : Spells (.bool true) "true".toList
  | false : Spells (.bool false) "false".toList
  | text (s : String) : Spells (.text s) ('"' :: s.toList ++ ['"'])
  | ints {is : List Int32} {parts : List (List Char)} (items : List.Forall₂ Item is parts) :
    Spells (.ints is) ('[' :: [','].intercalate parts ++ [']'])

/-- What a line can hold behind its colon, and how it is read. -/
structure Legible (value : Value) (literal : List Char) : Prop where
  passes : Passes literal
  whole : '\n' ∉ literal
  tight : Tight literal
  some : literal ≠ []
  reads : Literal.parse literal = value

namespace Literal

/-- First and last character are not blank. -/
theorem tight_of_ends {first last : Char} {inner : List Char} (left : isBlank first = false)
    (right : isBlank last = false) : Tight (first :: inner ++ [last]) := by
  refine ⟨left, ?_⟩
  rw [List.getLast?_concat]
  exact right

/-- An integer holds nothing but digits and its minus. -/
theorem ne_of_digit {c d : Char} (h : c.isDigit = true ∨ c = '-')
    (other : d.isDigit = false ∧ d ≠ '-') : c ≠ d := by
  rintro rfl
  rcases h with digit | minus
  · exact Bool.false_ne_true (other.1.symm.trans digit)
  · exact other.2 minus

theorem isInert_of_digit {c : Char} (h : c.isDigit = true ∨ c = '-') : isInert c = true := by
  simp [isInert, ne_of_digit (d := '#') h, ne_of_digit (d := '"') h, ne_of_digit (d := '\'') h,
    ne_of_digit (d := '\n') h]

theorem isInert_of_isSpace {c : Char} (h : isSpace c = true) : isInert c = true := by
  simp only [isSpace, Bool.or_eq_true, decide_eq_true_eq] at h
  rcases h with (rfl | rfl) | rfl
  · decide
  · decide
  · decide

theorem isBlank_of_digit {c : Char} (h : c.isDigit = true ∨ c = '-') : isBlank c = false := by
  simp [isBlank, ne_of_digit (d := ' ') h, ne_of_digit (d := '\t') h, ne_of_digit (d := '\r') h,
    ne_of_digit (d := '\n') h]

theorem tight_digits (i : Int32) : Tight (digits i) := by
  have inside (c : Char) (member : c ∈ digits i) : isBlank c = false :=
    isBlank_of_digit (digits_mem member)
  constructor
  · cases start : (digits i).head? with
    | none => rfl
    | some c => exact inside c (List.mem_of_mem_head? start)
  · cases ending : (digits i).getLast? with
    | none => rfl
    | some c => exact inside c (List.mem_of_getLast? ending)

theorem not_line_of_inert {cs : List Char} (h : ∀ c ∈ cs, isInert c = true) : '\n' ∉ cs :=
  fun member => absurd (h _ member) (by decide)

theorem toLower_of_start {c : Char} (h : c.isDigit = true ∨ c = '-') : c.toLower = c := by
  rcases h with digit | rfl
  · unfold Char.toLower
    unfold Char.isDigit at digit
    grind
  · rfl

/-- What starts like a number is no boolean word. -/
theorem boolean?_cons {c : Char} (h : c.isDigit = true ∨ c = '-') (rest : List Char) :
    boolean? (c :: rest) = none := by
  have word (w : String) (letter : w.toList.head?.all Char.isAlpha = true) :
      String.ofList ((c :: rest).map Char.toLower) ≠ w := by
    rintro rfl
    rw [String.toList_ofList, List.map_cons, toLower_of_start h] at letter
    have alpha : c.isAlpha = true := letter
    rcases h with digit | rfl
    · unfold Char.isDigit at digit
      unfold Char.isAlpha Char.isUpper Char.isLower at alpha
      grind
    · cases alpha
  have words (ws : List String)
      (letters : ws.all (fun w => w.toList.head?.all Char.isAlpha) = true) :
      ws.contains (String.ofList ((c :: rest).map Char.toLower)) = false := by
    rw [List.contains_eq_mem, decide_eq_false_iff_not]
    exact fun member => word _ (List.all_eq_true.1 letters _ member) rfl
  unfold boolean?
  dsimp only
  rw [words trueWords (by decide), words falseWords (by decide)]
  rfl

theorem bracketed?_cons {c : Char} (h : c ≠ '[') (rest : List Char) :
    bracketed? (c :: rest) = none := by
  unfold bracketed?
  split
  · rename_i same
    exact absurd (List.cons.inj same).1 h
  · rfl

theorem bracketed?_brackets (inner : List Char) :
    bracketed? ('[' :: inner ++ [']']) = some inner := by
  cases inner with
  | nil => rfl
  | cons c rest =>
    show (if (c :: rest ++ [']']).getLast? == some ']' then
      some (c :: rest ++ [']']).dropLast else none) = _
    rw [List.getLast?_concat, List.dropLast_concat]
    rfl

theorem isQuoted_cons {c : Char} (double : c ≠ '"') (single : c ≠ '\'') (rest : List Char) :
    isQuoted (c :: rest) = false := by
  cases rest with
  | nil => rfl
  | cons second rest => simp [isQuoted, double, single]

theorem isQuoted_quotes (inner : List Char) : isQuoted ('"' :: inner ++ ['"']) = true := by
  cases inner with
  | nil => rfl
  | cons c rest =>
    show (true && (c :: rest ++ ['"']).getLast? == some '"') = true
    rw [List.getLast?_concat]
    rfl

/-- An integer, read as a literal. -/
theorem parse_digits (i : Int32) : parse (digits i) = .int i := by
  obtain ⟨c, rest, first, start⟩ := digits_head i
  unfold parse
  rw [(tight_digits i).trim_eq, first]
  unfold ofTrimmed
  rw [bracketed?_cons (ne_of_digit start (by decide)),
    isQuoted_cons (ne_of_digit start (by decide)) (ne_of_digit start (by decide))]
  unfold scalar
  rw [boolean?_cons start, ← first, integer?_digits]
  rfl

/-- Quoted text, read as a literal. -/
theorem parse_quotes (inner : List Char) :
    parse ('"' :: inner ++ ['"']) = .text (String.ofList inner) := by
  unfold parse
  rw [(tight_of_ends (by decide) (by decide)).trim_eq]
  unfold ofTrimmed
  rw [List.cons_append, bracketed?_cons (by decide), ← List.cons_append, isQuoted_quotes]
  show Value.text (String.ofList (inner ++ ['"']).dropLast) = _
  rw [List.dropLast_concat]

theorem mem_item {i : Int32} {part : List Char} (h : Item i part) {c : Char} (member : c ∈ part) :
    isInert c = true ∧ c ≠ ',' := by
  obtain ⟨before, behind, left, right, rfl⟩ := h
  have space {c : Char} (h : isSpace c = true) : isInert c = true ∧ c ≠ ',' := by
    refine ⟨isInert_of_isSpace h, ?_⟩
    rintro rfl
    cases h
  rcases List.mem_append.1 member with front | last
  · rcases List.mem_append.1 front with first | digit
    · exact space (left c first)
    · exact ⟨isInert_of_digit (digits_mem digit), ne_of_digit (digits_mem digit) (by decide)⟩
  · exact space (right c last)

theorem trim_item {i : Int32} {part : List Char} (h : Item i part) : trim part = digits i := by
  obtain ⟨before, behind, left, right, rfl⟩ := h
  rw [trim_append_blanks fun c member => isBlank_of_isSpace (right c member),
    trim_blanks_append fun c member => isBlank_of_isSpace (left c member), (tight_digits i).trim_eq]

section Items

variable {is : List Int32} {parts : List (List Char)}

theorem mem_items (h : List.Forall₂ Item is parts) {part : List Char} (member : part ∈ parts) :
    ∃ i, Item i part := by
  induction h with
  | nil => cases member
  | @cons i first _ _ item _ ih =>
    rcases List.mem_cons.1 member with rfl | later
    · exact ⟨i, item⟩
    · exact ih later

/-- An array holds nothing that means anything outside it. -/
theorem isInert_of_mem_brackets (h : List.Forall₂ Item is parts) {c : Char}
    (member : c ∈ '[' :: [','].intercalate parts ++ [']']) : isInert c = true := by
  rw [List.cons_append, List.mem_cons, List.mem_append, List.mem_singleton] at member
  rcases member with rfl | inner | rfl
  · decide
  · rcases mem_intercalate inner with rfl | ⟨part, within, inside⟩
    · decide
    · obtain ⟨i, item⟩ := mem_items h within
      exact (mem_item item inside).1
  · decide

/-- The items of an array, each trimmed. -/
theorem items_intercalate (h : List.Forall₂ Item is parts) :
    items ([','].intercalate parts) = is.map digits := by
  have trimmed : parts.map trim = is.map digits := by
    induction h with
    | nil => rfl
    | cons item _ ih => rw [List.map_cons, List.map_cons, ih, trim_item item]
  have kept : (is.map digits).filter (fun item => !item.isEmpty) = is.map digits := by
    refine List.filter_eq_self.2 fun item member => ?_
    obtain ⟨i, -, rfl⟩ := List.mem_map.1 member
    obtain ⟨c, rest, first, -⟩ := digits_head i
    rw [first]
    rfl
  unfold items
  by_cases none : parts = []
  · obtain rfl := none
    cases h
    rfl
  · rw [pieces_intercalate none fun part member inside => ?_, trimmed, kept]
    obtain ⟨i, item⟩ := mem_items h member
    exact (mem_item item inside).2 rfl

theorem mapM_digits (is : List Int32) : (is.map digits).mapM integer? = some is := by
  induction is with
  | nil => rfl
  | cons i is ih =>
    rw [List.map_cons, List.mapM_cons, integer?_digits, ih]
    rfl

/-- An array in brackets, read as a literal. -/
theorem parse_brackets (h : List.Forall₂ Item is parts) :
    parse ('[' :: [','].intercalate parts ++ [']']) = .ints is := by
  unfold parse
  rw [(tight_of_ends (by decide) (by decide)).trim_eq]
  unfold ofTrimmed
  rw [bracketed?_brackets]
  dsimp only
  unfold array
  rw [items_intercalate h, mapM_digits]

end Items

end Literal

/-- Every value that has a written form is read back from it. -/
theorem legible {value : Value} {literal : List Char} (writable : value.Writable)
    (spells : Spells value literal) : Legible value literal := by
  cases spells with
  | int i =>
    have inert (c : Char) (member : c ∈ digits i) : isInert c = true :=
      Literal.isInert_of_digit (digits_mem member)
    obtain ⟨c, rest, first, -⟩ := digits_head i
    exact ⟨passes_of_inert inert, Literal.not_line_of_inert inert, Literal.tight_digits i,
      first ▸ List.cons_ne_nil c rest, Literal.parse_digits i⟩
  | true =>
    exact ⟨passes_of_inert (List.all_eq_true.1 rfl), by decide, ⟨rfl, rfl⟩, by decide, rfl⟩
  | false =>
    exact ⟨passes_of_inert (List.all_eq_true.1 rfl), by decide, ⟨rfl, rfl⟩, by decide, rfl⟩
  | text s =>
    obtain ⟨quote, line⟩ := writable
    refine ⟨passes_quoted quote, ?_, Literal.tight_of_ends (by decide) (by decide),
      List.cons_ne_nil _ _, ?_⟩
    · simpa using line
    · rw [Literal.parse_quotes, String.ofList_toList]
  | ints items =>
    have inert (c : Char) := Literal.isInert_of_mem_brackets items (c := c)
    exact ⟨passes_of_inert inert, Literal.not_line_of_inert inert,
      Literal.tight_of_ends (by decide) (by decide), List.cons_ne_nil _ _,
      Literal.parse_brackets items⟩

end FluidStructure.Config
