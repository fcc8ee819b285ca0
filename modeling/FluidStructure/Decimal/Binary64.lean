/-!
# Doubles taken apart

A double is a sign and a magnitude `mantissa * 2 ^ exponent`, an infinity, or no
number.  Everything that writes a double as decimal text starts here and goes on
in exact natural-number arithmetic.
-/

namespace FluidStructure.Decimal

/-- The magnitude `mantissa * 2 ^ exponent`. -/
structure Dyadic where
  mantissa : Nat
  exponent : Int
deriving DecidableEq, Repr

/-- Numerator of the magnitude as a fraction. -/
def Dyadic.num (d : Dyadic) : Nat := d.mantissa * Nat.pow 2 d.exponent.toNat

/-- Denominator of the magnitude as a fraction, a power of two. -/
def Dyadic.den (d : Dyadic) : Nat := Nat.pow 2 (-d.exponent).toNat

/-- What a double stands for. -/
inductive Binary64 where
  | nan
  | infinite (negative : Bool)
  | finite (negative : Bool) (magnitude : Dyadic)
deriving DecidableEq, Repr

/-- Reads sign, exponent field and fraction.  Field 0 is the subnormal range, which
shares the exponent of the smallest normal numbers; field 2047 holds the infinities
and the values that are no number. -/
def Binary64.ofFloat (x : Float) : Binary64 :=
  let bits := x.toBits.toNat
  let negative : Bool := Nat.pow 2 63 ≤ bits
  let field : Nat := bits / Nat.pow 2 52 % Nat.pow 2 11
  let fraction : Nat := bits % Nat.pow 2 52
  if field = 2047 then
    if fraction = 0 then .infinite negative else .nan
  else if field = 0 then
    .finite negative ⟨fraction, -1074⟩
  else
    .finite negative ⟨Nat.pow 2 52 + fraction, (field : Int) - 1075⟩

end FluidStructure.Decimal
