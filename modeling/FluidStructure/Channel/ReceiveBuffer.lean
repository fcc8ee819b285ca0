import FluidStructure.Channel.Message
import FluidStructure.Overwrite

/-!
# Receive buffers

A payload is received into a buffer of some element type.  One of the other type is taken
as it lies in memory, in halves of four bytes: an integer is one half, a real is two, the
low one first.  What a payload does not reach keeps its contents, down to the half.
-/

namespace FluidStructure.Channel

/-- The low half of a word. -/
def lowHalf (word : UInt64) : UInt32 := word.toUInt32

/-- The high half of a word. -/
def highHalf (word : UInt64) : UInt32 := (word >>> 32).toUInt32

/-- The word of two halves. -/
def joinHalves (low high : UInt32) : UInt64 := high.toUInt64 <<< 32 ||| low.toUInt64

/-- The place of a real.  Halves are kept as they are, since not every pair of them is the
pattern of a real: all patterns that are no number make the same real. -/
inductive Slot where
  | whole (value : Float)
  | halves (low high : UInt32)

namespace Slot

/-- The real that the slot reads as. -/
def value : Slot → Float
  | whole value => value
  | halves low high => Float.ofBits (joinHalves low high)

/-- The high half of what the slot holds. -/
def high : Slot → UInt32
  | whole value => highHalf value.toBits
  | halves _ high => high

/-- Stores integers, two to a slot.  A last one without a partner leaves the high half of
its slot alone. -/
def storeInts : List Int32 → List Slot → List Slot
  | low :: high :: rest, _ :: slots =>
    .halves low.toUInt32 high.toUInt32 :: storeInts rest slots
  | [low], slot :: slots => .halves low.toUInt32 slot.high :: slots
  | _, slots => slots

end Slot

/-- The two integers that a real reads as. -/
def halvesOf (x : Float) : List Int32 :=
  [(lowHalf x.toBits).toInt32, (highHalf x.toBits).toInt32]

/-- What a payload is received into. -/
inductive ReceiveBuffer where
  | ints (values : List Int32)
  | reals (slots : List Slot)

namespace ReceiveBuffer

/-- A buffer of reals that hold these values. -/
def ofReals (values : List Float) : ReceiveBuffer := .reals (values.map .whole)

/-- Bytes of one element. -/
def elementSize : ReceiveBuffer → Nat
  | ints _ => 4
  | reals _ => 8

/-- The buffer after a payload was received into it. -/
def receive : ReceiveBuffer → Payload → ReceiveBuffer
  | .ints old, .ints new => .ints (overwrite old new)
  | .ints old, .reals new => .ints (overwrite old (new.flatMap halvesOf))
  | .reals old, .reals new => .reals (overwrite old (new.map .whole))
  | .reals old, .ints new => .reals (Slot.storeInts new old)

/-- The integers of a buffer; of one for reals, the given ones. -/
def toInts (old : List Int32) : ReceiveBuffer → List Int32
  | ints values => values
  | reals _ => old

/-- The slots of a buffer; of one for integers, the given ones. -/
def toSlots (old : List Slot) : ReceiveBuffer → List Slot
  | reals slots => slots
  | ints _ => old

end ReceiveBuffer

end FluidStructure.Channel
