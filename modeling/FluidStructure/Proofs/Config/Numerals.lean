import FluidStructure.Proofs.Config.Literals
import Mathlib

/-!
# Numerals

The texts that are read as numbers, as a grammar of their own, and the numbers that they stand for.
An integer is read from exactly the integer numerals and a real from exactly the real numerals, so a
text that is neither is no number.
-/

namespace FluidStructure.Decimal

/-! ## Characters by their codes -/

theorem toNat_toLower (c : Char) :
    c.toLower.toNat = if 65 ≤ c.toNat ∧ c.toNat ≤ 90 then c.toNat + 32 else c.toNat := by
  simp only [← Char.toNat_val, Char.toLower]
  split <;> rename_i upper <;> simp [UInt32.le_iff_toNat_le] at upper
  · simp [upper]
    omega
  · rw [if_neg (by simp only [Char.toNat_val]; omega)]

theorem isDigit_iff {c : Char} : c.isDigit = true ↔ 48 ≤ c.toNat ∧ c.toNat ≤ 57 := by
  simp [Char.isDigit, UInt32.le_iff_toNat_le]

theorem isHexDigit_iff {c : Char} : isHexDigit c = true ↔
    (48 ≤ c.toNat ∧ c.toNat ≤ 57) ∨ (97 ≤ c.toNat ∧ c.toNat ≤ 102) ∨
      (65 ≤ c.toNat ∧ c.toNat ≤ 70) := by
  simp [isHexDigit, isDigit_iff, Char.le_def, UInt32.le_iff_toNat_le, or_assoc]

theorem isAlpha_iff {c : Char} : c.isAlpha = true ↔
    (65 ≤ c.toNat ∧ c.toNat ≤ 90) ∨ (97 ≤ c.toNat ∧ c.toNat ≤ 122) := by
  simp [Char.isAlpha, Char.isUpper, Char.isLower, UInt32.le_iff_toNat_le]

theorem isAlphanum_iff {c : Char} : c.isAlphanum = true ↔ c.isAlpha = true ∨ c.isDigit = true := by
  simp [Char.isAlphanum]

theorem isSpace_iff {c : Char} :
    isSpace c = true ↔ c.toNat = 32 ∨ 9 ≤ c.toNat ∧ c.toNat ≤ 13 := by
  simp [isSpace, Char.le_def, UInt32.le_iff_toNat_le, ← Char.toNat_inj]

theorem isAlpha_toLower (c : Char) : c.toLower.isAlpha = c.isAlpha := by
  rw [Bool.eq_iff_iff, isAlpha_iff, isAlpha_iff, toNat_toLower]
  split <;> omega

theorem isDigit_toLower (c : Char) : c.toLower.isDigit = c.isDigit := by
  rw [Bool.eq_iff_iff, isDigit_iff, isDigit_iff, toNat_toLower]
  split <;> omega

theorem isHexDigit_toLower (c : Char) : isHexDigit c.toLower = isHexDigit c := by
  rw [Bool.eq_iff_iff, isHexDigit_iff, isHexDigit_iff, toNat_toLower]
  split <;> omega

theorem isAlphanum_toLower (c : Char) : c.toLower.isAlphanum = c.isAlphanum := by
  rw [Bool.eq_iff_iff, isAlphanum_iff, isAlphanum_iff, isAlpha_toLower, isDigit_toLower]

theorem toLower_toLower (c : Char) : c.toLower.toLower = c.toLower := by
  rw [← Char.toNat_inj, toNat_toLower, toNat_toLower]
  by_cases upper : 65 ≤ c.toNat ∧ c.toNat ≤ 90
  · rw [if_pos upper, if_neg (by omega)]
  · rw [if_neg upper, if_neg upper]

/-- A character that is no letter is in no other case. -/
theorem toLower_eq_iff {c d : Char} (other : d.isAlpha = false) : c.toLower = d ↔ c = d := by
  have other : ¬d.isAlpha = true := Bool.eq_false_iff.1 other
  rw [isAlpha_iff] at other
  rw [← Char.toNat_inj, ← Char.toNat_inj, toNat_toLower]
  split <;> omega

theorem digitValue_toLower (c : Char) : digitValue c.toLower = digitValue c := by
  unfold digitValue
  rw [isDigit_toLower, toLower_toLower]
  split
  · rename_i digit
    rw [isDigit_iff] at digit
    rw [toNat_toLower, if_neg (by omega)]
  · rfl

theorem digitsValue_map_toLower (base : Nat) (ds : List Char) :
    digitsValue base (ds.map Char.toLower) = digitsValue base ds := by
  unfold digitsValue
  simp only [List.foldl_map, digitValue_toLower]

/-! ## Integers -/

/-- Decimal digits, at least one. -/
def Figures (ds : List Char) : Prop := ds ≠ [] ∧ ∀ c ∈ ds, c.isDigit = true

theorem isDigits_iff {ds : List Char} : isDigits ds = true ↔ Figures ds := by
  simp [isDigits, Figures]

/-- An optional plus, then an optional minus, then decimal digits.  The literal stands for their
value, and for no other integer that 32 bits hold. -/
inductive IntegerNumeral : List Char → Int32 → Prop
  | positive {plus ds : List Char} {i : Int32} (front : plus = [] ∨ plus = ['+'])
      (figures : Figures ds) (value : i.toInt = digitsValue 10 ds) : IntegerNumeral (plus ++ ds) i
  | negative {plus ds : List Char} {i : Int32} (front : plus = [] ∨ plus = ['+'])
      (figures : Figures ds) (value : i.toInt = -(digitsValue 10 ds : Int)) :
      IntegerNumeral (plus ++ '-' :: ds) i

theorem within_eq_some_iff {v : Int} {i : Int32} : within v = some i ↔ i.toInt = v := by
  constructor
  · intro h
    unfold within at h
    split at h
    · rename_i bounds
      cases h
      exact Int32.toInt_ofInt_of_le bounds.1 (by omega)
    · cases h
  · rintro rfl
    exact within_toInt i

/-- One plus in front does not matter. -/
theorem integer?_plus {rest : List Char} (once : rest.head? ≠ some '+') :
    integer? ('+' :: rest) = integer? rest := by
  cases rest with
  | nil => rfl
  | cons c rest =>
    have other : c ≠ '+' := fun same => once (congrArg some same)
    unfold integer?
    split
    · rename_i same
      cases same
      split
      · rename_i same
        exact absurd (List.cons.inj same).1 other
      · rfl
    · rename_i no
      exact absurd rfl (no _)

theorem integer?_iff {cs : List Char} {i : Int32} :
    integer? cs = some i ↔ IntegerNumeral cs i := by
  have positive {plus ds : List Char} (front : plus = [] ∨ plus = ['+'])
      (h : (if isDigits ds then some (digitsValue 10 ds : Int) else none).bind within = some i) :
      IntegerNumeral (plus ++ ds) i := by
    split at h
    · rename_i figures
      exact .positive front (isDigits_iff.1 figures) (within_eq_some_iff.1 h)
    · cases h
  have negative {plus ds : List Char} (front : plus = [] ∨ plus = ['+'])
      (h : (if isDigits ds then some (-(digitsValue 10 ds : Int)) else none).bind within = some i) :
      IntegerNumeral (plus ++ '-' :: ds) i := by
    split at h
    · rename_i figures
      exact .negative front (isDigits_iff.1 figures) (within_eq_some_iff.1 h)
    · cases h
  constructor
  · intro h
    unfold integer? at h
    split at h
    -- with a plus in front, then without
    · dsimp only at h
      split at h
      · exact negative (.inr rfl) h
      · exact positive (.inr rfl) h
    · dsimp only at h
      split at h
      · exact negative (.inl rfl) h
      · exact positive (.inl rfl) h
  · have minus {ds : List Char} (figures : Figures ds) (value : i.toInt = -(digitsValue 10 ds : Int)) :
        integer? ('-' :: ds) = some i := by
      rw [integer?_minus (isDigits_iff.2 figures), within_eq_some_iff, value]
    have plain {ds : List Char} (figures : Figures ds) (value : i.toInt = digitsValue 10 ds) :
        integer? ds = some i := by
      rw [integer?_isDigits (isDigits_iff.2 figures), within_eq_some_iff, value]
    rintro (⟨rfl | rfl, figures, value⟩ | ⟨rfl | rfl, figures, value⟩)
    · exact plain figures value
    · rw [List.singleton_append, integer?_plus, plain figures value]
      intro plus
      exact absurd (figures.2 _ (List.mem_of_mem_head? plus)) (by decide)
    · exact minus figures value
    · rw [List.singleton_append, integer?_plus (by simp), minus figures value]

/-! ## Reals -/

/-- A sign, and whether it negates. -/
inductive Sign : Bool → List Char → Prop
  | none : Sign false []
  | plus : Sign false ['+']
  | minus : Sign true ['-']

/-- Digits with at most one point, at least one digit: those before the point, those behind it, and
the whole as it is written. -/
inductive Mantissa (isFigure : Char → Bool) : List Char → List Char → List Char → Prop
  | whole {whole : List Char} (some : whole ≠ []) (figures : ∀ c ∈ whole, isFigure c = true) :
    Mantissa isFigure whole [] whole
  | pointed {whole fraction : List Char} (some : whole ++ fraction ≠ [])
      (figures : ∀ c ∈ whole ++ fraction, isFigure c = true) :
    Mantissa isFigure whole fraction (whole ++ '.' :: fraction)

/-- An exponent, always decimal, behind its letter in either case; it may be left out. -/
inductive Exponent (letter : Char) : Int → List Char → Prop
  | absent : Exponent letter 0 []
  | present {c : Char} {negative : Bool} {sign ds : List Char} (same : c.toLower = letter)
      (signed : Sign negative sign) (figures : Figures ds) :
    Exponent letter (if negative then -(digitsValue 10 ds : Int) else digitsValue 10 ds)
      (c :: (sign ++ ds))

/-- A real without its sign, and the double that it stands for. -/
inductive Magnitude : List Char → Float → Prop
  | infinity {name : List Char} (word : name.map Char.toLower = "inf".toList ∨
      name.map Char.toLower = "infinity".toList) : Magnitude name infinity
  | notNumber {name : List Char} (word : name.map Char.toLower = "nan".toList) :
    Magnitude name notNumber
  | tagged {name tag : List Char} (word : name.map Char.toLower = "nan".toList)
      (plain : ∀ c ∈ tag, c.isAlphanum = true ∨ c = '_') :
    Magnitude (name ++ '(' :: (tag ++ [')'])) notNumber
  | decimal {whole fraction mantissa part : List Char} {exponent : Int}
      (figures : Mantissa Char.isDigit whole fraction mantissa)
      (power : Exponent 'e' exponent part) :
    Magnitude (mantissa ++ part)
      (ofDecimal (digitsValue 10 (whole ++ fraction)) (exponent - (fraction.length : Int)))
  | hexadecimal {x : Char} {whole fraction mantissa part : List Char} {exponent : Int}
      (letter : x.toLower = 'x') (figures : Mantissa isHexDigit whole fraction mantissa)
      (power : Exponent 'p' exponent part) :
    Magnitude ('0' :: x :: (mantissa ++ part))
      (ofBinary (digitsValue 16 (whole ++ fraction)) (exponent - 4 * (fraction.length : Int)))

/-- White space, a sign and a magnitude, and nothing behind it. -/
inductive RealNumeral : List Char → Float → Prop
  | intro {spaces sign rest : List Char} {negative : Bool} {x : Float}
      (white : ∀ c ∈ spaces, isSpace c = true) (signed : Sign negative sign)
      (magnitude : Magnitude rest x) :
    RealNumeral (spaces ++ (sign ++ rest)) (if negative then -x else x)

/-! ### Signs -/

theorem sign_splitSign (cs : List Char) :
    ∃ sign, Sign (splitSign cs).1 sign ∧ cs = sign ++ (splitSign cs).2 := by
  unfold splitSign
  split
  · exact ⟨_, .minus, rfl⟩
  · exact ⟨_, .plus, rfl⟩
  · exact ⟨_, .none, rfl⟩

theorem Sign.splitSign_append {negative : Bool} {sign rest : List Char} (h : Sign negative sign)
    (plain : ∀ c ∈ rest.head?, c ≠ '+' ∧ c ≠ '-') :
    splitSign (sign ++ rest) = (negative, rest) := by
  cases h with
  | none =>
    rw [List.nil_append]
    unfold splitSign
    split
    · exact absurd rfl (plain _ rfl).2
    · exact absurd rfl (plain _ rfl).1
    · rfl
  | plus => rfl
  | minus => rfl

theorem splitSign_map_toLower (cs : List Char) :
    splitSign (cs.map Char.toLower) = ((splitSign cs).1, (splitSign cs).2.map Char.toLower) := by
  cases cs with
  | nil => rfl
  | cons c rest =>
    by_cases minus : c = '-'
    · subst minus
      rfl
    · by_cases plus : c = '+'
      · subst plus
        rfl
      · have plain : splitSign (c :: rest) = (false, c :: rest) :=
          Sign.none.splitSign_append (by simp [minus, plus])
        rw [plain]
        show splitSign ([] ++ (c :: rest).map Char.toLower) = _
        refine Sign.none.splitSign_append ?_
        simp [toLower_eq_iff (d := '+') rfl, toLower_eq_iff (d := '-') rfl, minus,
          plus]

/-! ### Mantissas and exponents -/

/-- Figures up to a character that is none. -/
theorem span_figures {isFigure : Char → Bool} {whole : List Char} (rest : List Char)
    (figures : ∀ c ∈ whole, isFigure c = true) (stop : ∀ c ∈ rest.head?, isFigure c = false) :
    (whole ++ rest).takeWhile isFigure = whole ∧ (whole ++ rest).dropWhile isFigure = rest := by
  rw [List.takeWhile_append_of_pos figures, List.dropWhile_append_of_pos figures]
  cases rest with
  | nil => simp
  | cons c rest => simp [stop c rfl]

section Scaled

variable {isFigure : Char → Bool} {base : Nat} {letter : Char}

/-- No figure is a point or the letter of an exponent, in either case. -/
structure Apart (isFigure : Char → Bool) (letter : Char) : Prop where
  point : isFigure '.' = false
  letter : ∀ c, c.toLower = letter → isFigure c = false ∧ c ≠ '.'

/-- What stands behind a mantissa, read as its exponent. -/
def powered (letter : Char) (build : Int → Scaled) : List Char → Option Scaled
  | [] => some (build 0)
  | c :: more =>
    let (negative, ds) := splitSign more
    if c.toLower = letter ∧ isDigits ds then
      some (build (if negative then -(digitsValue 10 ds : Int) else digitsValue 10 ds))
    else none

theorem powered_iff {build : Int → Scaled} {rest : List Char} {s : Scaled} :
    powered letter build rest = some s ↔
      ∃ exponent, Exponent letter exponent rest ∧ s = build exponent := by
  cases rest with
  | nil =>
    constructor
    · intro h
      cases h
      exact ⟨0, .absent, rfl⟩
    · rintro ⟨_, ⟨⟩, rfl⟩
      rfl
  | cons c more =>
    constructor
    · intro h
      unfold powered at h
      dsimp only at h
      split at h
      · rename_i both
        cases h
        obtain ⟨sign, written, same⟩ := sign_splitSign more
        refine ⟨_, ?_, rfl⟩
        conv in c :: more => rw [same]
        exact .present both.1 written (isDigits_iff.1 both.2)
      · cases h
    · rintro ⟨exponent, power, rfl⟩
      cases power with
      | present same signed figures =>
        unfold powered
        dsimp only
        rw [signed.splitSign_append, if_pos ⟨same, isDigits_iff.2 figures⟩]
        intro c first
        have digit := figures.2 c (List.mem_of_mem_head? first)
        rw [isDigit_iff] at digit
        constructor
        · rintro rfl
          exact absurd digit (by decide)
        · rintro rfl
          exact absurd digit (by decide)

theorem scaled?_unpointed {cs : List Char} (plain : ∀ c ∈ (cs.dropWhile isFigure).head?, c ≠ '.') :
    scaled? isFigure base letter cs =
      if cs.takeWhile isFigure = [] then none
      else powered letter (fun exponent => ⟨digitsValue base (cs.takeWhile isFigure), 0, exponent⟩)
        (cs.dropWhile isFigure) := by
  unfold scaled?
  dsimp only
  split
  · rename_i same
    exact absurd rfl (plain '.' (by rw [same]; rfl))
  · simp only [List.isEmpty_iff, List.isEmpty_nil, and_true, List.append_nil, List.length_nil]
    rfl

theorem scaled?_pointed {cs more : List Char} (h : cs.dropWhile isFigure = '.' :: more) :
    scaled? isFigure base letter cs =
      if cs.takeWhile isFigure ++ more.takeWhile isFigure = [] then none
      else powered letter (fun exponent =>
        ⟨digitsValue base (cs.takeWhile isFigure ++ more.takeWhile isFigure),
          (more.takeWhile isFigure).length, exponent⟩) (more.dropWhile isFigure) := by
  unfold scaled?
  simp only [h, List.isEmpty_iff, List.append_eq_nil_iff]
  rfl

/-- A mantissa and an exponent are read from the texts that are one behind the other. -/
theorem scaled?_iff (base : Nat) (apart : Apart isFigure letter) {cs : List Char} {s : Scaled} :
    scaled? isFigure base letter cs = some s ↔
      ∃ whole fraction mantissa exponent part, Mantissa isFigure whole fraction mantissa ∧
        Exponent letter exponent part ∧ cs = mantissa ++ part ∧
        s = ⟨digitsValue base (whole ++ fraction), fraction.length, exponent⟩ := by
  constructor
  · intro h
    have same : cs.takeWhile isFigure ++ cs.dropWhile isFigure = cs :=
      List.takeWhile_append_dropWhile
    have figures : ∀ c ∈ cs.takeWhile isFigure, isFigure c = true := fun c =>
      List.mem_takeWhile_imp
    by_cases point : ∃ more, cs.dropWhile isFigure = '.' :: more
    · obtain ⟨more, behind⟩ := point
      rw [scaled?_pointed behind] at h
      split at h
      · cases h
      · rename_i some
        obtain ⟨exponent, power, rfl⟩ := powered_iff.1 h
        refine ⟨_, _, _, exponent, _, .pointed some ?_, power, ?_, rfl⟩
        · intro c member
          rcases List.mem_append.1 member with left | right
          · exact figures c left
          · exact List.mem_takeWhile_imp right
        · rw [List.append_assoc, List.cons_append, List.takeWhile_append_dropWhile, ← behind, same]
    · rw [scaled?_unpointed] at h
      · split at h
        · cases h
        · rename_i some
          obtain ⟨exponent, power, rfl⟩ := powered_iff.1 h
          exact ⟨_, [], _, exponent, _, .whole some figures, power, same.symm, by simp⟩
      · rintro c first rfl
        obtain ⟨more, behind⟩ := List.head?_eq_some_iff.1 first
        exact point ⟨more, behind⟩
  · rintro ⟨whole, fraction, _, exponent, part, figures, power, rfl, rfl⟩
    have halt : ∀ c ∈ part.head?, isFigure c = false ∧ c ≠ '.' := by
      cases power with
      | absent => simp
      | present same => simpa using apart.letter _ same
    cases figures with
    | whole some figures =>
      obtain ⟨left, right⟩ := span_figures _ figures fun c first => (halt c first).1
      rw [scaled?_unpointed (by rw [right]; exact fun c first => (halt c first).2), left, right,
        if_neg some, powered_iff]
      exact ⟨exponent, power, by simp⟩
    | pointed some figures =>
      obtain ⟨before, behind⟩ := List.forall_mem_append.1 figures
      obtain ⟨left, right⟩ := span_figures ('.' :: (fraction ++ part)) before
        (by simpa using apart.point)
      obtain ⟨first, last⟩ := span_figures _ behind fun c first => (halt c first).1
      rw [List.append_assoc, List.cons_append, scaled?_pointed right, left, first, last, if_neg some,
        powered_iff]
      exact ⟨exponent, power, rfl⟩

theorem powered_map_toLower (build : Int → Scaled) (rest : List Char) :
    powered letter build (rest.map Char.toLower) = powered letter build rest := by
  have digits (ds : List Char) : isDigits (ds.map Char.toLower) = isDigits ds := by
    simp [isDigits, List.all_map, Function.comp_def, isDigit_toLower]
  cases rest with
  | nil => rfl
  | cons c more =>
    unfold powered
    simp [splitSign_map_toLower, digits, digitsValue_map_toLower]

/-- Letters count in either case. -/
theorem scaled?_map_toLower (same : ∀ c, isFigure c.toLower = isFigure c) (cs : List Char) :
    scaled? isFigure base letter (cs.map Char.toLower) = scaled? isFigure base letter cs := by
  have figure : isFigure ∘ Char.toLower = isFigure := funext same
  by_cases point : ∃ more, cs.dropWhile isFigure = '.' :: more
  · obtain ⟨more, behind⟩ := point
    have lowered : (cs.map Char.toLower).dropWhile isFigure = '.' :: more.map Char.toLower := by
      rw [List.dropWhile_map, figure, behind]
      rfl
    rw [scaled?_pointed behind, scaled?_pointed lowered]
    simp only [List.takeWhile_map, List.dropWhile_map, figure, ← List.map_append,
      List.map_eq_nil_iff, digitsValue_map_toLower, List.length_map, powered_map_toLower]
  · have plain : ∀ c ∈ (cs.dropWhile isFigure).head?, c ≠ '.' := by
      rintro c first rfl
      obtain ⟨more, behind⟩ := List.head?_eq_some_iff.1 first
      exact point ⟨more, behind⟩
    rw [scaled?_unpointed plain, scaled?_unpointed]
    · simp only [List.takeWhile_map, List.dropWhile_map, figure, List.map_eq_nil_iff,
        digitsValue_map_toLower, powered_map_toLower]
    · rw [List.dropWhile_map, figure, List.head?_map]
      intro c first
      obtain ⟨d, member, rfl⟩ := Option.map_eq_some_iff.1 first
      exact mt (toLower_eq_iff rfl).1 (plain d member)

end Scaled

theorem Apart.of_lower {isFigure : Char → Bool} {letter : Char} (point : isFigure '.' = false)
    (same : ∀ c, isFigure c.toLower = isFigure c) (none : isFigure letter = false)
    (other : letter ≠ '.') : Apart isFigure letter where
  point := point
  letter c lower := by
    subst lower
    refine ⟨(same c).symm.trans none, ?_⟩
    rintro rfl
    exact other rfl

theorem apart_decimal : Apart Char.isDigit 'e' :=
  .of_lower rfl isDigit_toLower rfl (by decide)

theorem apart_hexadecimal : Apart isHexDigit 'p' :=
  .of_lower rfl isHexDigit_toLower rfl (by decide)

/-! ### Magnitudes -/

/-- A mantissa begins with a figure or its point. -/
theorem Mantissa.head {isFigure : Char → Bool} {whole fraction mantissa : List Char}
    (h : Mantissa isFigure whole fraction mantissa) :
    ∃ c rest, mantissa = c :: rest ∧ (isFigure c = true ∨ c = '.') := by
  cases h with
  | whole some figures =>
    obtain ⟨c, rest, rfl⟩ := List.exists_cons_of_ne_nil some
    exact ⟨c, rest, rfl, .inl (figures c List.mem_cons_self)⟩
  | pointed some figures =>
    cases whole with
    | nil => exact ⟨'.', fraction, rfl, .inr rfl⟩
    | cons c whole => exact ⟨c, _, rfl, .inl (figures c List.mem_cons_self)⟩

/-- A magnitude begins with a letter, a digit or its point. -/
theorem Magnitude.head {cs : List Char} {x : Float} (h : Magnitude cs x) :
    ∃ c rest, cs = c :: rest ∧ (c.isAlphanum = true ∨ c = '.') := by
  have letter {name more : List Char} {first : Char} (same : name.map Char.toLower = first :: more)
      (plain : first.isAlphanum = true) :
      ∃ c rest, name = c :: rest ∧ (c.isAlphanum = true ∨ c = '.') := by
    obtain ⟨c, rest, rfl, rfl, -⟩ := List.map_eq_cons_iff.1 same
    exact ⟨c, rest, rfl, .inl (isAlphanum_toLower c ▸ plain)⟩
  cases h with
  | infinity word =>
    rcases word with short | long
    · exact letter short rfl
    · exact letter long rfl
  | notNumber word => exact letter word rfl
  | tagged word plain =>
    obtain ⟨c, rest, rfl, first⟩ := letter word rfl
    exact ⟨c, _, rfl, first⟩
  | decimal figures power =>
    obtain ⟨c, rest, rfl, first⟩ := figures.head
    exact ⟨c, _, rfl, first.imp_left fun digit => isAlphanum_iff.2 (.inr digit)⟩
  | hexadecimal letter figures power => exact ⟨'0', _, rfl, .inl rfl⟩

theorem isNanTail_iff {tail : List Char} :
    isNanTail tail = true ↔ tail = [] ∨ ∃ tag, tail = '(' :: (tag ++ [')']) ∧
      ∀ c ∈ tag, c.isAlphanum = true ∨ c = '_' := by
  constructor
  · intro h
    unfold isNanTail at h
    split at h
    · exact .inl rfl
    · rename_i rest
      obtain ⟨closed, plain⟩ := Bool.and_eq_true_iff.1 h
      obtain ⟨tag, rfl⟩ := List.getLast?_eq_some_iff.1 (beq_iff_eq.1 closed)
      rw [List.dropLast_concat, List.all_eq_true] at plain
      exact .inr ⟨tag, rfl, fun c member => by simpa using plain c member⟩
    · cases h
  · rintro (rfl | ⟨tag, rfl, plain⟩)
    · rfl
    · simpa [isNanTail] using plain

theorem isNanTail_map_toLower (tail : List Char) :
    isNanTail (tail.map Char.toLower) = isNanTail tail := by
  cases tail with
  | nil => rfl
  | cons c rest =>
    by_cases bracket : c = '('
    · subst bracket
      have closed : ((rest.map Char.toLower).getLast? == some ')') = (rest.getLast? == some ')') := by
        rw [List.getLast?_map, Bool.eq_iff_iff, beq_iff_eq, beq_iff_eq, Option.map_eq_some_iff]
        simp [toLower_eq_iff (d := ')') rfl]
      have plain (c : Char) : (c.toLower.isAlphanum || c.toLower == '_') =
          (c.isAlphanum || c == '_') := by
        rw [isAlphanum_toLower]
        congr 1
        rw [Bool.eq_iff_iff, beq_iff_eq, beq_iff_eq, toLower_eq_iff rfl]
      show ((rest.map Char.toLower).getLast? == some ')' && _) = (rest.getLast? == some ')' && _)
      rw [closed, ← List.map_dropLast, List.all_map]
      simp only [Function.comp_def, plain]
    · unfold isNanTail
      simp [bracket, toLower_eq_iff (d := '(') rfl]

theorem magnitude?_map_toLower (cs : List Char) :
    magnitude? (cs.map Char.toLower) = magnitude? cs := by
  have twice : Char.toLower ∘ Char.toLower = Char.toLower := funext toLower_toLower
  unfold magnitude?
  rw [List.map_map, twice]

/-- A hexadecimal prefix is no decimal. -/
theorem scaled?_prefix {x : Char} (h : x.toLower = 'x') (rest : List Char) :
    scaled? Char.isDigit 10 'e' ('0' :: x :: rest) = none := by
  have digit : x.isDigit = false := by
    rw [← isDigit_toLower, h]
    rfl
  have point : x ≠ '.' := by
    rintro rfl
    exact absurd h (by decide)
  have behind : ('0' :: x :: rest).dropWhile Char.isDigit = x :: rest := by
    simp [digit]
  rw [scaled?_unpointed (by simpa [behind] using point), behind]
  simp [powered, h]

/-- The word for no number, with what may be behind it. -/
theorem magnitude_of_tail {cs tail : List Char}
    (same : cs.map Char.toLower = 'n' :: 'a' :: 'n' :: tail) (fits : isNanTail tail = true) :
    Magnitude cs notNumber := by
  obtain ⟨n, cs, rfl, first, same⟩ := List.map_eq_cons_iff.1 same
  obtain ⟨a, cs, rfl, second, same⟩ := List.map_eq_cons_iff.1 same
  obtain ⟨m, cs, rfl, third, rfl⟩ := List.map_eq_cons_iff.1 same
  have word : [n, a, m].map Char.toLower = "nan".toList := by
    simp [first, second, third]
  rw [isNanTail_map_toLower, isNanTail_iff] at fits
  rcases fits with rfl | ⟨tag, rfl, plain⟩
  · exact .notNumber word
  · exact .tagged word plain

theorem magnitude_of_magnitude? {cs : List Char} {x : Float} (h : magnitude? cs = some x) :
    Magnitude cs x := by
  unfold magnitude? at h
  dsimp only at h
  split at h
  case isTrue word =>
    cases h
    exact .infinity word
  split at h
  case h_1 same =>
    split at h
    · rename_i fits
      cases h
      exact magnitude_of_tail same fits
    · cases h
  case h_2 same =>
    obtain ⟨zero, cs, rfl, digit, same⟩ := List.map_eq_cons_iff.1 same
    obtain ⟨x, cs, rfl, letter, rfl⟩ := List.map_eq_cons_iff.1 same
    rw [scaled?_map_toLower isHexDigit_toLower] at h
    obtain ⟨s, read, rfl⟩ := Option.map_eq_some_iff.1 h
    obtain ⟨whole, fraction, mantissa, exponent, part, figures, power, rfl, rfl⟩ :=
      (scaled?_iff 16 apart_hexadecimal).1 read
    obtain rfl := (toLower_eq_iff rfl).1 digit
    exact .hexadecimal letter figures power
  case h_3 =>
    rw [scaled?_map_toLower isDigit_toLower] at h
    obtain ⟨s, read, rfl⟩ := Option.map_eq_some_iff.1 h
    obtain ⟨whole, fraction, mantissa, exponent, part, figures, power, rfl, rfl⟩ :=
      (scaled?_iff 10 apart_decimal).1 read
    exact .decimal figures power

/-- What is read with decimal figures is neither a word nor hexadecimal. -/
theorem magnitude?_of_scaled {cs : List Char} {s : Scaled}
    (read : scaled? Char.isDigit 10 'e' cs = some s) :
    magnitude? cs = some (ofDecimal s.mantissa (s.exponent - (s.places : Int))) := by
  obtain ⟨_, _, _, _, _, figures, -, rfl, -⟩ := (scaled?_iff 10 apart_decimal).1 read
  obtain ⟨c, rest, rfl, first⟩ := figures.head
  have start {l : Char} {more behind : List Char} (digit : l.isDigit = false) (point : l ≠ '.')
      (same : (c :: rest ++ behind).map Char.toLower = l :: more) : False := by
    obtain ⟨rfl, -⟩ := List.cons.inj same
    rcases first with figure | rfl
    · rw [isDigit_toLower, figure] at digit
      cases digit
    · exact point rfl
  unfold magnitude?
  dsimp only
  rw [if_neg]
  · split
    · rename_i same
      exact (start rfl (by decide) same).elim
    · rename_i same
      obtain ⟨zero, cs, same, digit, lower⟩ := List.map_eq_cons_iff.1 same
      obtain ⟨x, cs, rfl, letter, -⟩ := List.map_eq_cons_iff.1 lower
      obtain rfl := (toLower_eq_iff rfl).1 digit
      rw [same, scaled?_prefix letter] at read
      cases read
    · rw [scaled?_map_toLower isDigit_toLower, read]
      rfl
  · rintro (short | long)
    · exact start rfl (by decide) short
    · exact start rfl (by decide) long

theorem magnitude?_of_magnitude {cs : List Char} {x : Float} (h : Magnitude cs x) :
    magnitude? cs = some x := by
  cases h with
  | infinity word => exact if_pos word
  | notNumber word =>
    unfold magnitude?
    rw [word]
    rfl
  | @tagged _ tag word plain =>
    have fits : isNanTail (('(' :: (tag ++ [')'])).map Char.toLower) = true := by
      rw [isNanTail_map_toLower]
      exact isNanTail_iff.2 (.inr ⟨tag, rfl, plain⟩)
    unfold magnitude?
    rw [List.map_append, word]
    exact if_pos fits
  | decimal figures power =>
    exact magnitude?_of_scaled <|
      (scaled?_iff 10 apart_decimal).2 ⟨_, _, _, _, _, figures, power, rfl, rfl⟩
  | hexadecimal letter figures power =>
    have read := (scaled?_iff 16 apart_hexadecimal).2
      ⟨_, _, _, _, _, figures, power, rfl, rfl⟩
    unfold magnitude?
    rw [List.map_cons, List.map_cons, letter]
    show Option.map _ (scaled? isHexDigit 16 'p' _) = _
    rw [scaled?_map_toLower isHexDigit_toLower, read]
    rfl

theorem magnitude?_iff {cs : List Char} {x : Float} : magnitude? cs = some x ↔ Magnitude cs x :=
  ⟨magnitude_of_magnitude?, magnitude?_of_magnitude⟩

/-! ### The whole numeral -/

theorem Magnitude.start {cs : List Char} {x : Float} (h : Magnitude cs x) :
    ∀ c ∈ cs.head?, isSpace c = false ∧ c ≠ '+' ∧ c ≠ '-' := by
  obtain ⟨c, rest, rfl, first⟩ := h.head
  intro d same
  cases same
  rcases first with letter | rfl
  · rw [isAlphanum_iff, isAlpha_iff, isDigit_iff] at letter
    simp only [← Bool.not_eq_true, isSpace_iff, ne_eq, ← Char.toNat_inj, Char.reduceToNat]
    omega
  · decide

theorem real?_iff {cs : List Char} {x : Float} : real? cs = some x ↔ RealNumeral cs x := by
  constructor
  · intro h
    unfold real? at h
    obtain ⟨m, read, rfl⟩ := Option.map_eq_some_iff.1 h
    obtain ⟨sign, signed, same⟩ := sign_splitSign (cs.dropWhile isSpace)
    have parts : cs.takeWhile isSpace ++ (sign ++ (splitSign (cs.dropWhile isSpace)).2) = cs := by
      rw [← same, List.takeWhile_append_dropWhile]
    have white : ∀ c ∈ cs.takeWhile isSpace, isSpace c = true := fun c => List.mem_takeWhile_imp
    have magnitude : Magnitude (splitSign (cs.dropWhile isSpace)).2 m := magnitude?_iff.1 read
    have numeral := RealNumeral.intro white signed magnitude
    rw [parts] at numeral
    exact numeral
  · rintro ⟨white, signed, magnitude⟩
    rename_i spaces sign rest negative m
    have stop : ∀ c ∈ (sign ++ rest).head?, isSpace c = false := by
      cases signed with
      | none => exact fun c first => (magnitude.start c first).1
      | plus => simp [isSpace]
      | minus => simp [isSpace]
    have back := (span_figures _ white stop).2
    unfold real?
    rw [back, signed.splitSign_append fun c first => (magnitude.start c first).2]
    dsimp only
    rw [magnitude?_iff.2 magnitude]
    rfl

end FluidStructure.Decimal
