/-
FleetOrders.Text.Lines — bytes read as lines of UTF-8.

A line ends at a line feed or at the end of the bytes; a carriage return
right before the line feed belongs to the ending. Bytes that are no UTF-8
spoil the line they stand in and no other.
-/

namespace FleetOrders.Text

/-- The bytes of a string in UTF-8. -/
def utf8 (s : String) : List UInt8 :=
  s.toByteArray.data.toList

/-- The string that the bytes write in UTF-8, if they write one. -/
def ofUtf8? (bytes : List UInt8) : Option String :=
  String.fromUTF8? ⟨bytes.toArray⟩

/-- A line as bytes, with whether a line feed ended it. -/
structure RawLine where
  bytes : List UInt8
  ended : Bool
  deriving DecidableEq, Repr

/-- The lines of a byte sequence. Nothing after the last line feed is no
line. -/
def rawLines : List UInt8 → List RawLine
  | [] => []
  | b :: rest =>
    if b = 0x0A then ⟨[], true⟩ :: rawLines rest
    else
      match rawLines rest with
      | [] => [⟨[b], false⟩]
      | line :: more => ⟨b :: line.bytes, line.ended⟩ :: more

/-- The bytes of a line without a carriage return that belongs to its
ending. -/
def RawLine.content (line : RawLine) : List UInt8 :=
  if line.ended ∧ line.bytes.getLast? = some 0x0D then line.bytes.dropLast else line.bytes

/-- The text of a line, if its bytes are UTF-8. -/
def RawLine.text? (line : RawLine) : Option String :=
  ofUtf8? line.content

/-- The lines of a byte sequence as texts, `none` for a line that is not
UTF-8. -/
def lines (bytes : List UInt8) : List (Option String) :=
  (rawLines bytes).map RawLine.text?

end FleetOrders.Text
