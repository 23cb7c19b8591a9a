/-
FleetOrders.Text.Blank — white space, as the Unicode property White_Space
defines it, and trimming by it.

* `isBlank` — the 25 code points of the property.
* `trimStart`, `trimEnd`, `trim` — over character lists.
* `trimmed` — `trim` of a string.

Everything that trims or skips space in this library goes through
`isBlank`, so there is one notion of space and not two.
-/

namespace FleetOrders.Text

/-- The Unicode property White_Space: the ASCII controls from tab to
carriage return, the space, and the spaces and separators beyond
ASCII. -/
def isBlank (c : Char) : Bool :=
  let n := c.toNat
  (0x09 ≤ n && n ≤ 0x0D) || n == 0x20 || n == 0x85 || n == 0xA0 || n == 0x1680 ||
    (0x2000 ≤ n && n ≤ 0x200A) || n == 0x2028 || n == 0x2029 || n == 0x202F ||
    n == 0x205F || n == 0x3000

/-- The text from its first character that is not blank. -/
def trimStart (cs : List Char) : List Char :=
  cs.dropWhile isBlank

/-- The text up to its last character that is not blank. -/
def trimEnd (cs : List Char) : List Char :=
  (cs.reverse.dropWhile isBlank).reverse

/-- The text without blanks at either end. -/
def trim (cs : List Char) : List Char :=
  trimEnd (trimStart cs)

/-- `trim` of a string. -/
def trimmed (s : String) : String :=
  String.ofList (trim s.toList)

end FleetOrders.Text
