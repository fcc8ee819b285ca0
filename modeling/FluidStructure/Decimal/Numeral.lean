import FluidStructure.Decimal.Rounding

/-!
# Reading numbers

`integer?` reads an integer of 32 bits, `real?` a double.  Both want the whole text:
what stands behind a number makes the text no number.  A real may be decimal or
hexadecimal, an infinity or no number, in either case of letters; a value beyond the
largest double is infinite, and one below the smallest is rounded like any other.
-/

namespace FluidStructure.Decimal

/-- The value of a digit, letters standing for ten to fifteen. -/
def digitValue (c : Char) : Nat :=
  if c.isDigit then c.toNat - '0'.toNat else c.toLower.toNat - 'a'.toNat + 10

/-- The number written by digits in a base. -/
def digitsValue (base : Nat) (ds : List Char) : Nat :=
  ds.foldl (fun n c => base * n + digitValue c) 0

def isHexDigit (c : Char) : Bool :=
  c.isDigit || ('a' ≤ c && c ≤ 'f') || ('A' ≤ c && c ≤ 'F')

/-- An optional sign in front, and what follows it. -/
def splitSign : List Char → Bool × List Char
  | '-' :: rest => (true, rest)
  | '+' :: rest => (false, rest)
  | cs => (false, cs)

/-- Is the text one decimal digit or more, and nothing else? -/
def isDigits (cs : List Char) : Bool := !cs.isEmpty && cs.all Char.isDigit

/-- An integer literal: an optional plus, then an optional minus, then digits.  A value
that needs more than 32 bits is none. -/
def integer? (cs : List Char) : Option Int32 :=
  let unsigned := match cs with
    | '+' :: rest => rest
    | _ => cs
  let value? : Option Int := match unsigned with
    | '-' :: ds => if isDigits ds then some (-(digitsValue 10 ds : Int)) else none
    | ds => if isDigits ds then some (digitsValue 10 ds : Int) else none
  value?.bind fun v =>
    if -2147483648 ≤ v ∧ v ≤ 2147483647 then some (Int32.ofInt v) else none

def infinity : Float := 1.0 / 0.0

def notNumber : Float := 0.0 / 0.0

/-- The double nearest to `m * 10 ^ k`. -/
def ofDecimal (m : Nat) (k : Int) : Float :=
  let top := (digitCount m : Int) + k
  if m = 0 ∨ top < -330 then 0.0
  else if 310 < top then infinity
  else Float.ofScientific m (k < 0) k.natAbs

/-- The double nearest to `m * 2 ^ k`.  A negative power of two is a power of five over
one of ten. -/
def ofBinary (m : Nat) (k : Int) : Float :=
  let top := (Nat.log2 m : Int) + k
  if m = 0 ∨ top < -1200 then 0.0
  else if 1100 < top then infinity
  else if 0 ≤ k then Float.ofScientific (m * Nat.pow 2 k.toNat) false 0
  else Float.ofScientific (m * Nat.pow 5 k.natAbs) true k.natAbs

/-- A mantissa and the exponent that its point and its exponent part add up to. -/
structure Scaled where
  mantissa : Nat
  places : Nat
  exponent : Int

/-- Digits with an optional point, then an optional exponent part behind its letter.
The exponent is always decimal. -/
def scaled? (isMantissaDigit : Char → Bool) (base : Nat) (letter : Char) (cs : List Char) :
    Option Scaled :=
  let whole := cs.takeWhile isMantissaDigit
  let rest := cs.dropWhile isMantissaDigit
  let (fraction, rest) := match rest with
    | '.' :: more => (more.takeWhile isMantissaDigit, more.dropWhile isMantissaDigit)
    | _ => ([], rest)
  if whole.isEmpty ∧ fraction.isEmpty then none
  else
    let build (exponent : Int) : Scaled :=
      ⟨digitsValue base (whole ++ fraction), fraction.length, exponent⟩
    match rest with
    | [] => some (build 0)
    | c :: more =>
      let (negative, ds) := splitSign more
      if c.toLower = letter ∧ isDigits ds then
        some (build (if negative then -(digitsValue 10 ds : Int) else digitsValue 10 ds))
      else none

/-- White space that may stand in front of a real. -/
def isSpace (c : Char) : Bool := c == ' ' || ('\t' ≤ c && c ≤ '\r')

/-- A name in parentheses may follow `nan`. -/
def isNanTail (cs : List Char) : Bool :=
  match cs with
  | [] => true
  | '(' :: rest =>
    rest.getLast? == some ')' && rest.dropLast.all fun c => c.isAlphanum || c == '_'
  | _ => false

/-- A real without its sign. -/
def magnitude? (cs : List Char) : Option Float :=
  let lower := cs.map Char.toLower
  if lower = ['i', 'n', 'f'] ∨ lower = ['i', 'n', 'f', 'i', 'n', 'i', 't', 'y'] then
    some infinity
  else
    match lower with
    | 'n' :: 'a' :: 'n' :: rest => if isNanTail rest then some notNumber else none
    | '0' :: 'x' :: rest =>
      (scaled? isHexDigit 16 'p' rest).map fun s =>
        ofBinary s.mantissa (s.exponent - 4 * (s.places : Int))
    | _ =>
      (scaled? Char.isDigit 10 'e' lower).map fun s =>
        ofDecimal s.mantissa (s.exponent - (s.places : Int))

/-- A real literal. -/
def real? (cs : List Char) : Option Float :=
  let (negative, rest) := splitSign (cs.dropWhile isSpace)
  (magnitude? rest).map fun x => if negative then -x else x

end FluidStructure.Decimal
