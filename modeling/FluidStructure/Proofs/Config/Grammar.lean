import FluidStructure.Proofs.Config.Numerals

/-!
# What a literal stands for

The values of all literals as a relation, one clause for each kind of value.  Every text stands for
exactly one value, and reading the text gives that value: no integer is wrapped, no digits behind
which something else stands are a number, and whatever is nothing else is text.
-/

namespace FluidStructure.Text

/-- Cutting into pieces is splitting a list at a separator. -/
theorem pieces_eq_splitOn (separator : Char) (cs : List Char) :
    pieces separator cs = cs.splitOn separator := by
  induction cs with
  | nil => rfl
  | cons c rest ih =>
    rw [List.splitOn_cons_eq_if_modifyHead, ← ih, pieces]
    by_cases same : c = separator
    · rw [if_pos same, if_pos (beq_iff_eq.2 same)]
    · rw [if_neg same, if_neg (mt beq_iff_eq.1 same)]
      cases parts : pieces separator rest with
      | nil => exact absurd parts (pieces_ne_nil separator rest)
      | cons first others => rfl

end FluidStructure.Text

namespace FluidStructure.Config

open FluidStructure.Decimal FluidStructure.Text

/-! ## The relation -/

/-- A number; an integer numeral stands for its integer, converted. -/
inductive Numeral : List Char → Float → Prop
  | integer {cs : List Char} {i : Int32} (numeral : IntegerNumeral cs i) : Numeral cs i.toFloat
  | real {cs : List Char} {x : Float} (other : ∀ i, ¬IntegerNumeral cs i)
      (numeral : RealNumeral cs x) : Numeral cs x

/-- A word for a boolean, in any case of letters. -/
inductive Word : List Char → Bool → Prop
  | true {cs : List Char} (word : String.ofList (cs.map Char.toLower) ∈ ["true", "yes", "on"]) :
    Word cs true
  | false {cs : List Char} (word : String.ofList (cs.map Char.toLower) ∈ ["false", "no", "off"]) :
    Word cs false

/-- Text between two equal quotes. -/
inductive Quoted : List Char → List Char → Prop
  | double (inner : List Char) : Quoted ('"' :: (inner ++ ['"'])) inner
  | single (inner : List Char) : Quoted ('\'' :: (inner ++ ['\''])) inner

/-- An item of a text array: one layer of quotes is taken off. -/
inductive Bare : List Char → String → Prop
  | quoted {cs inner : List Char} (quotes : Quoted cs inner) : Bare cs (String.ofList inner)
  | plain {cs : List Char} (free : ∀ inner, ¬Quoted cs inner) : Bare cs (String.ofList cs)

/-- The items of an array: what stands between its commas, trimmed; blank items are dropped. -/
def Literal.entries (inner : List Char) : List (List Char) :=
  ((inner.splitOn ',').map trim).filter (· ≠ [])

open Literal in
/-- What a literal without blanks around it stands for. -/
inductive Denotes : List Char → Value → Prop
  | ints {inner : List Char} {is : List Int32}
      (every : List.Forall₂ IntegerNumeral (entries inner) is) :
    Denotes ('[' :: (inner ++ [']'])) (.ints is)
  | reals {inner : List Char} {xs : List Float}
      (every : List.Forall₂ Numeral (entries inner) xs)
      (other : ∃ item ∈ entries inner, ∀ i, ¬IntegerNumeral item i) :
    Denotes ('[' :: (inner ++ [']'])) (.reals xs)
  | texts {inner : List Char} {ss : List String} (every : List.Forall₂ Bare (entries inner) ss)
      (other : ∃ item ∈ entries inner, ∀ x, ¬Numeral item x) :
    Denotes ('[' :: (inner ++ [']'])) (.texts ss)
  | quoted {cs inner : List Char} (quotes : Quoted cs inner) :
    Denotes cs (.text (String.ofList inner))
  | bool {cs : List Char} {b : Bool} (word : Word cs b) : Denotes cs (.bool b)
  | int {cs : List Char} {i : Int32} (numeral : IntegerNumeral cs i) : Denotes cs (.int i)
  | real {cs : List Char} {x : Float} (other : ∀ i, ¬IntegerNumeral cs i)
      (numeral : RealNumeral cs x) : Denotes cs (.real x)
  | text {cs : List Char} (unbracketed : ∀ inner, cs ≠ '[' :: (inner ++ [']']))
      (unquoted : ∀ inner, ¬Quoted cs inner) (unspoken : ∀ b, ¬Word cs b)
      (uncounted : ∀ x, ¬Numeral cs x) : Denotes cs (.text (String.ofList cs))

/-! ## Reading the parts -/

namespace Literal

theorem number?_iff {cs : List Char} {x : Float} : number? cs = some x ↔ Numeral cs x := by
  unfold number?
  cases read : integer? cs with
  | some i =>
    constructor
    · intro h
      cases h
      exact .integer (integer?_iff.1 read)
    · intro h
      cases h with
      | integer numeral =>
        rw [integer?_iff.2 numeral] at read
        cases read
        rfl
      | real other numeral => exact absurd (integer?_iff.1 read) (other i)
  | none =>
    have other (i : Int32) : ¬IntegerNumeral cs i := fun numeral => by
      rw [integer?_iff.2 numeral] at read
      cases read
    constructor
    · intro h
      exact .real other (real?_iff.1 h)
    · intro h
      cases h with
      | integer numeral => exact absurd numeral (other _)
      | real other numeral => exact real?_iff.2 numeral

theorem boolean?_iff {cs : List Char} {b : Bool} : boolean? cs = some b ↔ Word cs b := by
  unfold boolean?
  simp only [trueWords, falseWords, List.contains_iff_mem]
  constructor
  · intro h
    split at h
    · cases h
      exact .true ‹_›
    · split at h
      · cases h
        exact .false ‹_›
      · cases h
  · intro h
    cases h with
    | true word => rw [if_pos word]
    | false word =>
      rw [if_neg, if_pos word]
      intro other
      simp only [List.mem_cons, List.not_mem_nil, or_false] at word other
      grind

theorem bracketed?_iff {cs inner : List Char} :
    bracketed? cs = some inner ↔ cs = '[' :: (inner ++ [']']) := by
  constructor
  · intro h
    unfold bracketed? at h
    split at h
    · split at h
      · rename_i second rest closed
        cases h
        obtain ⟨front, same⟩ := List.getLast?_eq_some_iff.1 (beq_iff_eq.1 closed)
        rw [same, List.dropLast_concat]
      · cases h
    · cases h
  · rintro rfl
    exact bracketed?_brackets inner

theorem isQuoted_iff {cs : List Char} : isQuoted cs = true ↔ ∃ inner, Quoted cs inner := by
  constructor
  · intro h
    unfold isQuoted at h
    split at h
    · obtain ⟨quote, closed⟩ := Bool.and_eq_true_iff.1 h
      obtain ⟨inner, same⟩ := List.getLast?_eq_some_iff.1 (beq_iff_eq.1 closed)
      rw [same]
      rcases Bool.or_eq_true_iff.1 quote with double | single
      · rw [beq_iff_eq.1 double]
        exact ⟨inner, .double inner⟩
      · rw [beq_iff_eq.1 single]
        exact ⟨inner, .single inner⟩
    · cases h
  · rintro ⟨inner, ⟨⟩ | ⟨⟩⟩
    · exact isQuoted_quotes inner
    · cases inner with
      | nil => rfl
      | cons c rest =>
        show (true && (c :: rest ++ ['\'']).getLast? == some '\'') = true
        rw [List.getLast?_concat]
        rfl

theorem inside_of_quoted {cs inner : List Char} (h : Quoted cs inner) : inside cs = inner := by
  cases h <;> simp [inside]

theorem unquote_iff {cs : List Char} {s : String} : unquote cs = s ↔ Bare cs s := by
  unfold unquote
  by_cases quoted : isQuoted cs = true
  · obtain ⟨inner, quotes⟩ := isQuoted_iff.1 quoted
    rw [if_pos quoted, inside_of_quoted quotes]
    constructor
    · rintro rfl
      exact .quoted quotes
    · rintro (⟨other⟩ | ⟨free⟩)
      · rw [← inside_of_quoted quotes, inside_of_quoted other]
      · exact absurd quotes (free inner)
  · rw [if_neg quoted]
    constructor
    · rintro rfl
      exact .plain fun inner quotes => quoted (isQuoted_iff.2 ⟨inner, quotes⟩)
    · rintro (⟨quotes⟩ | ⟨free⟩)
      · exact absurd (isQuoted_iff.2 ⟨_, quotes⟩) quoted
      · rfl

theorem items_eq_entries (inner : List Char) : items inner = entries inner := by
  unfold items entries
  rw [pieces_eq_splitOn]
  congr 1
  funext item
  cases item <;> rfl

section Items

variable {α β : Type} {read : α → Option β} {Spec : α → β → Prop}

theorem mapM_iff (spec : ∀ {a b}, read a = some b ↔ Spec a b) {items : List α} {values : List β} :
    items.mapM read = some values ↔ List.Forall₂ Spec items values := by
  induction items generalizing values with
  | nil => simp [eq_comm]
  | cons item items ih =>
    rw [List.mapM_cons]
    constructor
    · intro h
      obtain ⟨v, first, h⟩ := Option.bind_eq_some_iff.1 h
      obtain ⟨vs, rest, h⟩ := Option.bind_eq_some_iff.1 h
      cases h
      exact .cons (spec.1 first) (ih.1 rest)
    · rintro (_ | ⟨first, rest⟩)
      rw [spec.2 first, ih.2 rest]
      rfl

theorem mapM_eq_none_iff (spec : ∀ {a b}, read a = some b ↔ Spec a b) {items : List α} :
    items.mapM read = none ↔ ∃ item ∈ items, ∀ b, ¬Spec item b := by
  induction items with
  | nil => simp
  | cons item items ih =>
    simp only [List.mem_cons, exists_eq_or_imp]
    rw [List.mapM_cons, ← ih]
    cases first : read item with
    | none =>
      refine iff_of_true rfl (.inl fun b holds => ?_)
      rw [spec.2 holds] at first
      cases first
    | some v =>
      rw [or_iff_right fun none => none v (spec.1 first)]
      cases items.mapM read with
      | none => exact iff_of_true rfl rfl
      | some vs => exact iff_of_false nofun nofun

end Items

/-! ## Reading the whole -/

variable {cs : List Char}

/-- What begins a number begins neither an array nor quoted text. -/
theorem start_of_numeral {x : Float} (h : Numeral cs x) :
    ∃ c rest, cs = c :: rest ∧ c ≠ '[' ∧ c ≠ '"' ∧ c ≠ '\'' := by
  have plain {c : Char} (start : Decimal.isSpace c = true ∨ c = '+' ∨ c = '-' ∨ c = '.' ∨
      c.isAlphanum = true) : c ≠ '[' ∧ c ≠ '"' ∧ c ≠ '\'' := by
    refine ⟨?_, ?_, ?_⟩
    · rintro rfl
      exact absurd start (by decide)
    · rintro rfl
      exact absurd start (by decide)
    · rintro rfl
      exact absurd start (by decide)
  have figure {ds : List Char} (figures : Figures ds) :
      ∃ c rest, ds = c :: rest ∧ c ≠ '[' ∧ c ≠ '"' ∧ c ≠ '\'' := by
    obtain ⟨c, rest, rfl⟩ := List.exists_cons_of_ne_nil figures.1
    have digit := figures.2 c List.mem_cons_self
    exact ⟨c, rest, rfl, plain (by simp [isAlphanum_iff, digit])⟩
  cases h with
  | integer numeral =>
    rcases numeral with ⟨rfl | rfl, figures, -⟩ | ⟨rfl | rfl, -, -⟩
    · exact figure figures
    · exact ⟨'+', _, rfl, plain (by decide)⟩
    · exact ⟨'-', _, rfl, plain (by decide)⟩
    · exact ⟨'+', _, rfl, plain (by decide)⟩
  | real _ numeral =>
    cases numeral with
    | @intro spaces sign rest negative x white signed magnitude =>
      cases spaces with
      | cons c spaces => exact ⟨c, _, rfl, plain (.inl (white c List.mem_cons_self))⟩
      | nil =>
        cases signed with
        | none =>
          obtain ⟨c, rest, rfl, first⟩ := magnitude.head
          refine ⟨c, rest, rfl, plain ?_⟩
          rcases first with letter | point
          · exact .inr (.inr (.inr (.inr letter)))
          · exact .inr (.inr (.inr (.inl point)))
        | plus => exact ⟨'+', _, rfl, plain (by decide)⟩
        | minus => exact ⟨'-', _, rfl, plain (by decide)⟩

theorem ne_of_letter {c d : Char} (letter : c.isAlpha = true) (other : d.isAlpha = false) :
    c ≠ d := by
  rintro rfl
  exact Bool.false_ne_true (other.symm.trans letter)

/-- What begins with a letter is a number only as an infinity or as no number. -/
theorem number?_of_letter {c : Char} {rest : List Char} (letter : c.isAlpha = true)
    (other : magnitude? (c :: rest) = none) : number? (c :: rest) = none := by
  have plus : c ≠ '+' := ne_of_letter letter rfl
  have minus : c ≠ '-' := ne_of_letter letter rfl
  have digit : c.isDigit = false := by
    rw [isAlpha_iff] at letter
    simp only [← Bool.not_eq_true, isDigit_iff]
    omega
  have space : Decimal.isSpace c = false := by
    rw [isAlpha_iff] at letter
    simp only [← Bool.not_eq_true, isSpace_iff]
    omega
  have integer : integer? (c :: rest) = none := by
    simp [integer?, plus, minus, isDigits, digit]
  have signless : splitSign (c :: rest) = (false, c :: rest) :=
    Sign.none.splitSign_append (by simp [plus, minus])
  have real : real? (c :: rest) = none := by
    unfold real?
    rw [List.dropWhile_cons_of_neg (by rw [space]; decide), signless]
    dsimp only
    rw [other]
    rfl
  unfold number?
  rw [integer, real]

/-- A boolean word begins with a letter and is no number. -/
theorem start_of_word {b : Bool} (h : Word cs b) :
    ∃ c rest, cs = c :: rest ∧ c.isAlpha = true ∧ number? cs = none := by
  have start (w : String) (spelled : String.ofList (cs.map Char.toLower) = w)
      (letter : w.toList.head?.any Char.isAlpha = true) (other : magnitude? w.toList = none) :
      ∃ c rest, cs = c :: rest ∧ c.isAlpha = true ∧ number? cs = none := by
    have lower : cs.map Char.toLower = w.toList := by rw [← spelled, String.toList_ofList]
    rw [← lower, magnitude?_map_toLower] at other
    rw [← lower] at letter
    cases cs with
    | nil => cases letter
    | cons c rest =>
      have letter : c.isAlpha = true := isAlpha_toLower c ▸ letter
      exact ⟨c, rest, rfl, letter, number?_of_letter letter other⟩
  cases h with
  | true word | false word =>
    simp only [List.mem_cons, List.not_mem_nil, or_false] at word
    rcases word with word | word | word <;> exact start _ word rfl rfl

/-! ### The value of a literal -/

theorem denotes_array (inner : List Char) : Denotes ('[' :: (inner ++ [']'])) (array (items inner)) := by
  unfold array
  rw [items_eq_entries]
  cases whole : (entries inner).mapM integer? with
  | some is => exact .ints ((mapM_iff integer?_iff).1 whole)
  | none =>
    have other := (mapM_eq_none_iff integer?_iff).1 whole
    cases numbers : (entries inner).mapM number? with
    | some xs => exact .reals ((mapM_iff number?_iff).1 numbers) other
    | none =>
      refine .texts ?_ ((mapM_eq_none_iff number?_iff).1 numbers)
      rw [List.forall₂_map_right_iff, List.forall₂_same]
      exact fun item _ => unquote_iff.1 rfl

theorem denotes_scalar (unbracketed : bracketed? cs = none) (unquoted : ¬isQuoted cs = true) :
    Denotes cs (scalar cs) := by
  unfold scalar
  cases spoken : boolean? cs with
  | some b => exact .bool (boolean?_iff.1 spoken)
  | none =>
    cases whole : integer? cs with
    | some i => exact .int (integer?_iff.1 whole)
    | none =>
      have number : number? cs = real? cs := by
        unfold number?
        rw [whole]
      cases counted : real? cs with
      | some x =>
        refine .real (fun i numeral => ?_) (real?_iff.1 counted)
        rw [integer?_iff.2 numeral] at whole
        cases whole
      | none =>
        refine .text (fun inner same => ?_) (fun inner quotes => ?_) (fun b word => ?_)
          fun x numeral => ?_
        · rw [bracketed?_iff.2 same] at unbracketed
          cases unbracketed
        · exact unquoted (isQuoted_iff.2 ⟨inner, quotes⟩)
        · rw [boolean?_iff.2 word] at spoken
          cases spoken
        · rw [← number?_iff, number, counted] at numeral
          cases numeral

/-- Every literal stands for what it is read as. -/
theorem denotes_ofTrimmed (cs : List Char) : Denotes cs (ofTrimmed cs) := by
  unfold ofTrimmed
  cases brackets : bracketed? cs with
  | some inner =>
    rw [bracketed?_iff] at brackets
    subst brackets
    exact denotes_array inner
  | none =>
    dsimp only
    split
    · rename_i quoted
      obtain ⟨inner, quotes⟩ := isQuoted_iff.1 quoted
      rw [inside_of_quoted quotes]
      exact .quoted quotes
    · rename_i unquoted
      exact denotes_scalar brackets unquoted

theorem ofTrimmed_brackets (inner : List Char) :
    ofTrimmed ('[' :: (inner ++ [']'])) = array (entries inner) := by
  unfold ofTrimmed
  rw [← List.cons_append, bracketed?_brackets, ← items_eq_entries]

theorem ofTrimmed_cons {c : Char} (bracket : c ≠ '[') (double : c ≠ '"') (single : c ≠ '\'')
    (rest : List Char) : ofTrimmed (c :: rest) = scalar (c :: rest) := by
  unfold ofTrimmed
  rw [bracketed?_cons bracket, isQuoted_cons double single]
  rfl

/-- One item that is no number makes the array one of texts. -/
theorem array_of_not_numeral {items : List (List Char)}
    (other : ∃ item ∈ items, ∀ x, ¬Numeral item x) : array items = .texts (items.map unquote) := by
  have whole : ∃ item ∈ items, ∀ i, ¬IntegerNumeral item i := by
    obtain ⟨item, member, none⟩ := other
    exact ⟨item, member, fun i numeral => none _ (.integer numeral)⟩
  unfold array
  rw [(mapM_eq_none_iff integer?_iff).2 whole, (mapM_eq_none_iff number?_iff).2 other]

/-- A number is no boolean word and is read as a number. -/
theorem ofTrimmed_of_numeral {x : Float} (h : Numeral cs x) :
    ofTrimmed cs = scalar cs ∧ boolean? cs = none := by
  obtain ⟨c, rest, same, bracket, double, single⟩ := start_of_numeral h
  constructor
  · rw [same, ofTrimmed_cons bracket double single]
  · cases spoken : boolean? cs with
    | none => rfl
    | some b =>
      obtain ⟨_, _, _, _, none⟩ := start_of_word (boolean?_iff.1 spoken)
      rw [number?_iff.2 h] at none
      cases none

/-- A literal stands for nothing but what it is read as. -/
theorem ofTrimmed_of_denotes {value : Value} (h : Denotes cs value) : ofTrimmed cs = value := by
  cases h with
  | ints every =>
    rw [ofTrimmed_brackets, array, (mapM_iff integer?_iff).2 every]
  | reals every other =>
    rw [ofTrimmed_brackets, array, (mapM_eq_none_iff integer?_iff).2 other,
      (mapM_iff number?_iff).2 every]
  | @texts inner ss every other =>
    have bare : (entries inner).map unquote = ss := by
      rw [← List.forall₂_eq_eq_eq, List.forall₂_map_left_iff]
      exact every.imp fun _ _ => unquote_iff.2
    rw [ofTrimmed_brackets, array_of_not_numeral other, bare]
  | quoted quotes =>
    have unbracketed : bracketed? cs = none := by
      cases quotes with
      | double inner => exact bracketed?_cons (by decide) _
      | single inner => exact bracketed?_cons (by decide) _
    unfold ofTrimmed
    rw [unbracketed, isQuoted_iff.2 ⟨_, quotes⟩, inside_of_quoted quotes]
    rfl
  | bool word =>
    obtain ⟨c, rest, same, letter, -⟩ := start_of_word word
    have reads : ofTrimmed cs = scalar cs := by
      rw [same, ofTrimmed_cons (ne_of_letter letter rfl) (ne_of_letter letter rfl)
        (ne_of_letter letter rfl)]
    rw [reads, scalar, boolean?_iff.2 word]
  | int numeral =>
    obtain ⟨reads, unspoken⟩ := ofTrimmed_of_numeral (.integer numeral)
    rw [reads, scalar, unspoken, integer?_iff.2 numeral]
  | real other numeral =>
    obtain ⟨reads, unspoken⟩ := ofTrimmed_of_numeral (.real other numeral)
    have whole : integer? cs = none := Option.eq_none_iff_forall_ne_some.2 fun i read =>
      other i (integer?_iff.1 read)
    rw [reads, scalar, unspoken, whole, real?_iff.2 numeral]
  | text unbracketed unquoted unspoken uncounted =>
    have bracket : bracketed? cs = none := Option.eq_none_iff_forall_ne_some.2 fun inner read =>
      unbracketed inner (bracketed?_iff.1 read)
    have quote : isQuoted cs = false := Bool.eq_false_iff.2 fun quoted => by
      obtain ⟨inner, quotes⟩ := isQuoted_iff.1 quoted
      exact unquoted inner quotes
    have spoken : boolean? cs = none := Option.eq_none_iff_forall_ne_some.2 fun b read =>
      unspoken b (boolean?_iff.1 read)
    have whole : integer? cs = none := Option.eq_none_iff_forall_ne_some.2 fun i read =>
      uncounted _ (.integer (integer?_iff.1 read))
    have counted : real? cs = none := Option.eq_none_iff_forall_ne_some.2 fun x read =>
      uncounted x (.real (fun i numeral => uncounted _ (.integer numeral)) (real?_iff.1 read))
    unfold ofTrimmed scalar
    rw [bracket, quote, spoken, whole, counted]
    rfl

end Literal

/-- Every text is read as the one value that it stands for, and an integer in decimal as itself. -/
theorem parse_eq_iff :
    (∀ text value, Literal.parse text = value ↔ Denotes (trim text) value) ∧
      ∀ i : Int32, Literal.parse (digits i) = .int i := by
  refine ⟨fun text value => ?_, Literal.parse_digits⟩
  unfold Literal.parse
  constructor
  · rintro rfl
    exact Literal.denotes_ofTrimmed (trim text)
  · exact Literal.ofTrimmed_of_denotes

end FluidStructure.Config
