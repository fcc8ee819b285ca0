/-!
# Labels

A label is what a record of fixed width holds of a text: its bytes up to the first zero
byte or to the end of the record.  That end may cut a character in two.  The bytes left
of it are a fragment; they tell two labels apart, but are no character of either.
-/

namespace FluidStructure.Text

/-- A text up to its first zero character. -/
def untilZero (s : String) : String := String.ofList (s.toList.takeWhile (· ≠ '\x00'))

/-- A text whose last character may be cut. -/
structure Label where
  /-- The whole characters. -/
  text : String
  /-- The first bytes of a character that was cut in two. -/
  fragment : List UInt8 := []
deriving DecidableEq, Repr

/-- A text is a label with nothing cut. -/
instance : Coe String Label := ⟨fun text => { text }⟩

/-- The whole characters that a record of some width holds, and the fragment behind them. -/
def clipChars (width : Nat) : List Char → List Char × List UInt8
  | [] => ([], [])
  | c :: rest =>
    if c = '\x00' then ([], [])
    else if c.utf8Size ≤ width then
      let (whole, fragment) := clipChars (width - c.utf8Size) rest
      (c :: whole, fragment)
    else ([], (String.utf8EncodeChar c).take width)

namespace Label

/-- What a record of some width holds of a text. -/
def clip (width : Nat) (s : String) : Label :=
  let (whole, fragment) := clipChars width s.toList
  ⟨String.ofList whole, fragment⟩

def byteSize (l : Label) : Nat := l.text.utf8ByteSize + l.fragment.length

/-- The bytes of the characters, and those of the fragment. -/
def bytes (l : Label) : List UInt8 := l.text.toUTF8.data.toList ++ l.fragment

/-- The longest text among the first so many bytes or fewer, and the bytes left of it. -/
def longest (bytes : List UInt8) : Nat → Label
  | 0 => ⟨"", bytes⟩
  | n + 1 =>
    match String.fromUTF8? (bytes.take (n + 1)).toByteArray with
    | some text => ⟨text, bytes.drop (n + 1)⟩
    | none => longest bytes n

/-- The label that some bytes are. -/
def ofBytes (bytes : List UInt8) : Label := longest bytes bytes.length

/-- The label as text: a fragment shows as the replacement character. -/
def shown (l : Label) : String := if l.fragment.isEmpty then l.text else l.text ++ "\uFFFD"

/-- Do the bytes of the label start with those of a text?  A text ends with a whole
character, so a fragment plays no part. -/
def startsWith (l : Label) (s : String) : Bool := s.toList.isPrefixOf l.text.toList

end Label

end FluidStructure.Text
