import FluidStructure.Decimal.Binary64

/-!
# Rounding a fraction to decimal digits

`roundDiv` takes a quotient to the nearest natural number, a half to the even
neighbour.  `order` finds the decimal exponent of a fraction, and `significant`
rounds a fraction to a given number of significant digits.
-/

namespace FluidStructure.Decimal

/-- The natural number nearest to `num / den`; a half goes to the even neighbour. -/
def roundDiv (num den : Nat) : Nat :=
  let q := num / den
  let twice := 2 * (num % den)
  if twice < den then q
  else if den < twice then q + 1
  else if q % 2 = 0 then q else q + 1

/-- Number of decimal digits; zero has one. -/
def digitCount (n : Nat) : Nat := (Nat.toDigits 10 n).length

/-- Numerator and denominator of `num / den * 10 ^ k`. -/
def scaleTen (num den : Nat) (k : Int) : Nat × Nat :=
  (num * Nat.pow 10 k.toNat, den * Nat.pow 10 (-k).toNat)

/-- The `k` with `10 ^ k ≤ num / den < 10 ^ (k + 1)`, for a positive fraction: the
difference of the digit counts, or one less. -/
def order (num den : Nat) : Int :=
  let k := (digitCount num : Int) - (digitCount den : Int)
  let (n, d) := scaleTen num den (-k)
  if d ≤ n then k else k - 1

/-- Decimal digits `digits` read as `digits * 10 ^ exponent`. -/
structure Digits where
  digits : Nat
  exponent : Int
deriving DecidableEq, Repr

/-- A positive fraction rounded to `count + 1` significant digits.  Rounding up to a
power of ten moves to the next decade. -/
def significant (count num den : Nat) : Digits :=
  let k := order num den
  let unit := k - (count : Int)
  let (n, d) := scaleTen num den (-unit)
  let r := roundDiv n d
  if r = Nat.pow 10 (count + 1) then ⟨Nat.pow 10 count, unit + 1⟩ else ⟨r, unit⟩

end FluidStructure.Decimal
