import FluidStructure.Config.Value
import FluidStructure.Decimal.Numeral
import FluidStructure.Text.Blank

/-!
# Value literals

A literal in brackets is an array: its items are the pieces between commas, trimmed,
blank ones dropped.  It holds integers if all items are integer literals, reals if all
are numbers, and text otherwise.  Any other literal is quoted text, a boolean word, an
integer, a real, or plain text, tried in this order.
-/

namespace FluidStructure.Config

open FluidStructure.Decimal FluidStructure.Text

namespace Literal

/-- The inside of a literal in brackets. -/
def bracketed? (cs : List Char) : Option (List Char) :=
  match cs with
  | '[' :: second :: rest =>
    if (second :: rest).getLast? == some ']' then some (second :: rest).dropLast else none
  | _ => none

/-- The items of an array. -/
def items (cs : List Char) : List (List Char) :=
  ((pieces ',' cs).map trim).filter fun item => !item.isEmpty

/-- An item read as a real; an integer literal is converted. -/
def number? (item : List Char) : Option Float :=
  match integer? item with
  | some i => some i.toFloat
  | none => real? item

/-- An item of a text array, without one layer of enclosing quotes. -/
def unquote (item : List Char) : String :=
  String.ofList (if isQuoted item then inside item else item)

/-- The array of some items. -/
def array (items : List (List Char)) : Value :=
  match items.mapM integer? with
  | some is => .ints is
  | none =>
    match items.mapM number? with
    | some xs => .reals xs
    | none => .texts (items.map unquote)

def trueWords : List String := ["true", "yes", "on"]

def falseWords : List String := ["false", "no", "off"]

/-- A boolean word, in any case of letters. -/
def boolean? (cs : List Char) : Option Bool :=
  let word := String.ofList (cs.map Char.toLower)
  if trueWords.contains word then some true
  else if falseWords.contains word then some false
  else none

/-- A literal that is neither an array nor quoted. -/
def scalar (cs : List Char) : Value :=
  match boolean? cs with
  | some b => .bool b
  | none =>
    match integer? cs with
    | some i => .int i
    | none =>
      match real? cs with
      | some x => .real x
      | none => .text (String.ofList cs)

/-- A literal without blanks around it. -/
def ofTrimmed (cs : List Char) : Value :=
  match bracketed? cs with
  | some inner => array (items inner)
  | none => if isQuoted cs then .text (String.ofList (inside cs)) else scalar cs

/-- Reads a literal. -/
def parse (cs : List Char) : Value := ofTrimmed (trim cs)

end Literal

end FluidStructure.Config
