/-
FleetOrders.Text.LowerCase — the full lower case of a text.

Each code point has a lower case of its own, from the Unicode tables.
Two letters need more than a table row:

* U+0130 (I with a dot above) becomes two code points, `i` and the
  combining dot;
* capital sigma at the end of a word becomes the final sigma. A word ends
  there when a cased letter stands before the sigma and none stands after
  it, looking through characters that case ignores.
-/
import FleetOrders.Text.LowerCase.Table
import FleetOrders.Text.Ranges

namespace FleetOrders.Text.LowerCase

/-- The Unicode property Cased. -/
def isCased (c : Char) : Bool :=
  inRanges casedRanges c

/-- The Unicode property Case_Ignorable. -/
def isIgnorable (c : Char) : Bool :=
  inRanges ignorableRanges c

/-- The run holds the code point. -/
def Run.holds (r : Run) (n : Nat) : Bool :=
  r.first ≤ n && n ≤ r.last && (n - r.first) % r.step == 0

/-- The lower case of a code point by itself. -/
def ofChar (c : Char) : List Char :=
  if c = '\u0130' then ['i', '\u0307']
  else
    match runs.find? (·.holds c.toNat) with
    | some r => [Char.ofNat (c.toNat + r.shift).toNat]
    | none => [c]

/-- The first character that case does not ignore is a cased letter. -/
def meetsCased (cs : List Char) : Bool :=
  match cs.dropWhile isIgnorable with
  | [] => false
  | c :: _ => isCased c

/-- The lower case of `rest`, where `before` is the text to its left,
nearest character first. -/
def following (before : List Char) : List Char → List Char
  | [] => []
  | c :: rest =>
    let folded :=
      if c = 'Σ' then
        if meetsCased before && !meetsCased rest then ['ς'] else ['σ']
      else ofChar c
    folded ++ following (c :: before) rest

end FleetOrders.Text.LowerCase

namespace FleetOrders.Text

/-- The full lower case of a text. -/
def lowerCase (cs : List Char) : List Char :=
  LowerCase.following [] cs

/-- `text` stands somewhere in `whole`. -/
def occursIn (text : List Char) : List Char → Bool
  | [] => text.isEmpty
  | c :: rest => text.isPrefixOf (c :: rest) || occursIn text rest

end FleetOrders.Text
