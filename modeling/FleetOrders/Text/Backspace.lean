/-
FleetOrders.Text.Backspace — a line as its writer meant it, where it still
holds the backspaces that were typed.

A backspace takes back the grapheme cluster before it, and itself does not
stay. At the start of a line there is nothing to take back.

How much a cluster is, is counted in bytes and kept in one byte. Of a
cluster of 256 bytes or more only what is over a multiple of 256 is taken
back.

* `TypedLine` — a line so far.
* `afterBackspaces` — a whole line.
-/
import FleetOrders.Text.Grapheme

namespace FleetOrders.Text

/-- The character that takes back. -/
def backspace : Char := '\x08'

/-- A line so far. -/
structure TypedLine where
  /-- What stands there, last character first. -/
  kept : List Char
  /-- How many bytes each backspace to come would take back. -/
  sizes : List Nat
  deriving DecidableEq, Repr

namespace TypedLine

/-- Takes so many bytes from the end, in whole characters. -/
def dropBytes (n : Nat) : List Char → List Char
  | [] => []
  | c :: rest => if n = 0 then c :: rest else dropBytes (n - c.utf8Size) rest

/-- The size of a cluster, as far as one byte holds it. -/
def sizeInByte (cluster : List Char) : Nat :=
  (String.ofList cluster).utf8ByteSize % 256

/-- The line after one more cluster. -/
def add (t : TypedLine) (cluster : List Char) : TypedLine :=
  if cluster = [backspace] then
    match t.sizes with
    | [] => t
    | n :: sizes => ⟨dropBytes n t.kept, sizes⟩
  else ⟨cluster.reverse ++ t.kept, sizeInByte cluster :: t.sizes⟩

end TypedLine

/-- What is left of a line after its backspaces. -/
def afterBackspaces (line : String) : String :=
  String.ofList ((graphemes line.toList).foldl TypedLine.add ⟨[], []⟩).kept.reverse

end FleetOrders.Text
