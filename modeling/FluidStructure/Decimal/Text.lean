import FluidStructure.Decimal.Shortest

/-!
# Decimal text of numbers

Three ways to write a double.  `shortest` has the fewest digits that read back and
drops a fraction of zero; `fixed` has a set number of places; `scientific` has one
digit before the point and a set number after it.  All of them round the exact
binary value.
-/

namespace FluidStructure.Decimal

/-- An integer in decimal. -/
def ofInt : Int → String
  | .ofNat n => n.repr
  | .negSucc n => "-" ++ (n + 1).repr

/-- An integer in decimal, padded on the left with blanks. -/
def padded (width : Nat) (i : Int) : String :=
  let text := ofInt i
  String.ofList (List.replicate (width - text.length) ' ') ++ text

/-- Decimal digits of a number, zeros in front up to a width. -/
def zeroPadded (width n : Nat) : List Char :=
  let ds := Nat.toDigits 10 n
  List.replicate (width - ds.length) '0' ++ ds

/-- An exponent: its sign always, and at least two digits. -/
def exponentText (k : Int) : String :=
  (if k < 0 then "e-" else "e+") ++ String.ofList (zeroPadded 2 k.natAbs)

/-- Where a number stands in the sign column. -/
inductive SignColumn where
  /-- Only a minus sign is written. -/
  | minusOnly
  /-- A plus sign is written too. -/
  | always

def SignColumn.text (column : SignColumn) (negative : Bool) : String :=
  match negative, column with
  | true, _ => "-"
  | false, .always => "+"
  | false, .minusOnly => ""

/-- A value that is no number is written without its own sign. -/
def SignColumn.nan (column : SignColumn) : String := column.text false ++ "nan"

/-- One digit, a point and the rest. -/
def mantissaText (ds : List Char) : String :=
  match ds with
  | [] => ""
  | [d] => d.toString
  | d :: rest => d.toString ++ "." ++ String.ofList rest

/-- Scientific text with `places` digits after the point. -/
def scientific (column : SignColumn) (places : Nat) (x : Float) : String :=
  match Binary64.ofFloat x with
  | .nan => column.nan
  | .infinite negative => column.text negative ++ "inf"
  | .finite negative d =>
    if d.mantissa = 0 then
      column.text negative ++ mantissaText (zeroPadded (places + 1) 0) ++ exponentText 0
    else
      let c := significant places d.num d.den
      column.text negative ++ mantissaText (zeroPadded (places + 1) c.digits) ++
        exponentText (c.exponent + (places : Int))

/-- Text with `places` digits after the point. -/
def fixed (places : Nat) (x : Float) : String :=
  match Binary64.ofFloat x with
  | .nan => "nan"
  | .infinite negative => SignColumn.minusOnly.text negative ++ "inf"
  | .finite negative d =>
    let ds := zeroPadded (places + 1) (roundDiv (d.num * Nat.pow 10 places) d.den)
    let whole := ds.length - places
    SignColumn.minusOnly.text negative ++ String.ofList (ds.take whole) ++ "." ++
      String.ofList (ds.drop whole)

/-- How the shortest text is laid out: decimal exponents from `lowest` up to and not
including `highest` are written in positional form. -/
structure Layout where
  lowest : Int
  highest : Int

/-- Exponents from -4 to 15 are positional. -/
def standardLayout : Layout := ⟨-4, 16⟩

/-- Lays out the digits of a positive number. -/
def Layout.write (layout : Layout) (c : Digits) : String :=
  let ds := Nat.toDigits 10 c.digits
  let k := (ds.length : Int) - 1 + c.exponent
  if layout.lowest ≤ k ∧ k < layout.highest then
    if 0 ≤ c.exponent then
      String.ofList (ds ++ List.replicate c.exponent.toNat '0')
    else if 0 ≤ k then
      String.ofList (ds.take (k.toNat + 1)) ++ "." ++ String.ofList (ds.drop (k.toNat + 1))
    else
      "0." ++ String.ofList (List.replicate ((-k).toNat - 1) '0' ++ ds)
  else
    mantissaText ds ++ exponentText k

/-- The fewest digits that read back. -/
def shortest (x : Float) : String :=
  match Binary64.ofFloat x with
  | .nan => "nan"
  | .infinite negative => SignColumn.minusOnly.text negative ++ "inf"
  | .finite negative d =>
    SignColumn.minusOnly.text negative ++
      if d.mantissa = 0 then "0" else standardLayout.write d.shortest

end FluidStructure.Decimal
