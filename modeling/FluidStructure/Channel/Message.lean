import FluidStructure.Channel.Status
import FluidStructure.Text.Label

/-!
# Messages between the solvers

Every message has a header with its key, its kind and the number of its values, and a
payload if that number is positive.
-/

namespace FluidStructure.Channel

/-- What a message carries. -/
inductive Kind where
  | ints
  | reals
  | field
  | ending
deriving DecidableEq, Repr

/-- The number that stands for a kind in a header. -/
def Kind.code : Kind → Int32
  | .ints => 1
  | .reals => 2
  | .field => 3
  | .ending => 4

/-- Most bytes that a name can have. -/
def maxNameBytes : Nat := 31

/-- The fixed part of a message. -/
structure Header where
  iteration : Int32
  count : Int32
  /-- Any number may arrive here. -/
  kind : Int32
  name : String
deriving DecidableEq, Repr

/-- The name as the receiver reads it. -/
def Header.receivedName (h : Header) : Text.Label := .clip maxNameBytes h.name

/-- Values of one type. -/
inductive Payload where
  | ints (values : List Int32)
  | reals (values : List Float)

namespace Payload

def length : Payload → Nat
  | ints values => values.length
  | reals values => values.length

/-- Bytes of one element. -/
def elementSize : Payload → Nat
  | ints _ => 4
  | reals _ => 8

/-- Bytes of all elements. -/
def size (p : Payload) : Nat := p.length * p.elementSize

end Payload

end FluidStructure.Channel
