import FluidStructure.Decimal.Rounding

/-!
# The fewest digits that read back

A decimal reads back as a double exactly when it lies in the interval of numbers
that round to that double.  The search tries one to seventeen digits; on each grid
only the two neighbours of the value can matter, since the interval has no gap.
-/

namespace FluidStructure.Decimal

/-- The numbers that round to a double, in quarters of a unit of its mantissa; the ends
belong to it when the mantissa is even. -/
structure Basin where
  low : Nat
  high : Nat
  closed : Bool

/-- Below a power of two the neighbour is half as far away, the smallest normal number
excepted. -/
def Dyadic.basin (d : Dyadic) : Basin where
  low := if d.mantissa = Nat.pow 2 52 ∧ -1074 < d.exponent then 4 * d.mantissa - 1
    else 4 * d.mantissa - 2
  high := 4 * d.mantissa + 2
  closed := d.mantissa % 2 = 0

/-- Compares `digits * 10 ^ exponent` with `quarters * 2 ^ (exponent of d - 2)`. -/
def Dyadic.compareQuarters (d : Dyadic) (c : Digits) (quarters : Nat) : Ordering :=
  let e := d.exponent - 2
  compare (c.digits * Nat.pow 10 c.exponent.toNat * Nat.pow 2 (-e).toNat)
    (quarters * Nat.pow 2 e.toNat * Nat.pow 10 (-c.exponent).toNat)

/-- Does this decimal read back as the double? -/
def Dyadic.readsBack (d : Dyadic) (c : Digits) : Bool :=
  let b := d.basin
  let below := d.compareQuarters c b.low
  let above := d.compareQuarters c b.high
  (below == .gt || (b.closed && below == .eq)) &&
    (above == .lt || (b.closed && above == .eq))

/-- The decimal with `count + 1` digits that reads back and lies nearest to the value, if
any does; of two at the same distance the even one. -/
def Dyadic.onGrid? (d : Dyadic) (count : Nat) : Option Digits :=
  let unit := order d.num d.den - (count : Int)
  let (n, m) := scaleTen d.num d.den (-unit)
  let near : Digits := ⟨roundDiv n m, unit⟩
  let far : Digits := ⟨if roundDiv n m * m ≤ n then roundDiv n m + 1 else roundDiv n m - 1, unit⟩
  if d.readsBack near then some near
  else if d.readsBack far then some far
  else none

/-- Drops trailing zeros, at most `fuel` of them. -/
def Digits.dropZeros : Nat → Digits → Digits
  | 0, c => c
  | fuel + 1, c =>
    if c.digits % 10 = 0 ∧ c.digits ≠ 0 then dropZeros fuel ⟨c.digits / 10, c.exponent + 1⟩ else c

/-- Fewest digits that read back, for a positive magnitude.  Seventeen always do. -/
def Dyadic.shortest (d : Dyadic) : Digits :=
  let found := (List.range 17).findSome? d.onGrid?
  (found.getD (significant 16 d.num d.den)).dropZeros 20

end FluidStructure.Decimal
