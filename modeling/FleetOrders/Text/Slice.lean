/-
FleetOrders.Text.Slice — parts of a text by their bytes.

A text is a list of characters, and its places are counted in bytes of
UTF-8. A byte inside a character is no place at which a text can be cut.

* `cutAt?` — the text before a byte and the text from it on.
* `slice?` — the text from one byte up to another.
-/

namespace FleetOrders.Text

/-- The text before the byte and the text from it on; nothing if the byte
lies inside a character or past the end. -/
def cutAt? (byte : Nat) : List Char → Option (List Char × List Char)
  | [] => if byte = 0 then some ([], []) else none
  | c :: rest =>
    if byte = 0 then some ([], c :: rest)
    else if byte < c.utf8Size then none
    else (cutAt? (byte - c.utf8Size) rest).map fun (head, tail) => (c :: head, tail)

/-- The text from the first byte up to the second; nothing if they are in
the wrong order, or if the text cannot be cut at one of them. -/
def slice? (start stop : Nat) (text : List Char) : Option (List Char) :=
  if stop < start then none
  else do
    let (_, rest) ← cutAt? start text
    let (part, _) ← cutAt? (stop - start) rest
    some part

end FleetOrders.Text
