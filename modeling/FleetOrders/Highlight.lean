/-
FleetOrders.Highlight — a line in colours.

Every token is set in the colour of its kind: its characters are taken out
of the line by the place of the token, and what lies between two tokens is
copied as it stands. Colours are ANSI sequences around the text, so taking
them away again leaves the line as it was typed.
-/
import FleetOrders.Text.Slice
import FleetOrders.Token.Segment

namespace FleetOrders

open Text (slice?)

namespace Highlight

/-- The sequence that ends a colour. -/
def reset : String := "\x1b[0m"

/-- The sequence that starts the colour of a kind, if it has one. -/
def color? : TokenKind → Option String
  | .fleetMark | .worldMark => some "\x1b[1;36m"
  | .number => some "\x1b[35m"
  | .build | .transfer | .attack => some "\x1b[33m"
  | .industry | .population => some "\x1b[32m"
  | .join | .turn => some "\x1b[1;32m"
  | .unknown => some "\x1b[4;31m"
  | .joinText | .endOfInput => none

/-- A text in the colour of a kind. -/
def painted (kind : TokenKind) (text : List Char) : List Char :=
  match color? kind with
  | some color => color.toList ++ text ++ reset.toList
  | none => text

/-- The bytes of the blanks before the text of a line. Tokens are placed in
the text behind them. -/
def indent (line : List Char) : Nat :=
  byteLength line - byteLength (Text.trimStart line)

/-- The line from a byte on with the tokens painted, where `lead` is the
byte at which their text starts. A token whose place is not in the line is
passed over. There is no such line if what lies before a token, or behind
the last, cannot be cut out. -/
def paintedFrom? (line : List Char) (lead copied : Nat) : List Token → Option (List Char)
  | [] => slice? copied (byteLength line) line
  | t :: ts =>
    match slice? (lead + t.offset) (lead + t.stop) line with
    | none => paintedFrom? line lead copied ts
    | some text => do
      let gap ← slice? copied (lead + t.offset) line
      let rest ← paintedFrom? line lead (lead + t.stop) ts
      some (gap ++ painted t.kind text ++ rest)

end Highlight

/-- A line in colours, if its parts can be cut out. Without colours, and
when it is blank, it is as it was typed. -/
def highlight? (color : Bool) (line : String) : Option String :=
  if color && !(Text.trim line.toList).isEmpty then
    let tokens := (tokenize line).filter (!·.isEnd)
    (Highlight.paintedFrom? line.toList (Highlight.indent line.toList) 0 tokens).map
      String.ofList
  else some line

/-- A line as it is shown. -/
def highlight (color : Bool) (line : String) : String :=
  (highlight? color line).getD line

end FleetOrders
