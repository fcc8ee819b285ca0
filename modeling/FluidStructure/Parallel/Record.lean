import FluidStructure.Overwrite
import FluidStructure.Text.Label

/-!
# Declarations and their records

Every rank declares a type and a name for its application.  They travel as a record of
fixed width: two fields of bytes, each filled up with zeros.
-/

namespace FluidStructure.Parallel

/-- Type and name that a rank declares for its application. -/
structure Declaration where
  type : Text.Label
  name : Text.Label
deriving DecidableEq, Repr

/-- Bytes of a field. -/
def fieldBytes : Nat := 64

/-- Bytes of a record. -/
def recordBytes : Nat := 2 * fieldBytes

/-- The bytes of a label at the front of a field of zeros. -/
def packField (l : Text.Label) : List UInt8 := overwrite (List.replicate fieldBytes 0) l.bytes

/-- What stands at the front of some bytes, up to the first zero or the end of the field. -/
def unpackField (bytes : List UInt8) : Text.Label :=
  .ofBytes ((bytes.take fieldBytes).takeWhile (· ≠ 0))

namespace Declaration

/-- The record of a declaration: the field of the type, then that of the name. -/
def pack (d : Declaration) : List UInt8 := packField d.type ++ packField d.name

/-- Reads a record at the front of some bytes. -/
def unpack (bytes : List UInt8) : Declaration :=
  ⟨unpackField bytes, unpackField (bytes.drop fieldBytes)⟩

/-- Reads the records of so many ranks. -/
def unpackAll (ranks : Nat) (bytes : List UInt8) : List Declaration :=
  (List.range ranks).map fun r => unpack (bytes.drop (r * recordBytes))

end Declaration

end FluidStructure.Parallel
