/-
FleetOrders.Command.SyntaxError — what makes a line no order, and where.

Every error is met at one token, `found`, and is placed where that token
starts.
-/
import FleetOrders.Text.Decimal
import FleetOrders.Token

namespace FleetOrders

/-- What kinds of token would have done. -/
inductive Expectation where
  | one (kind : TokenKind)
  | anyOf (kinds : List TokenKind)
  deriving DecidableEq, Repr

namespace Expectation

/-- The kinds that would have done. -/
def kinds : Expectation → List TokenKind
  | .one kind => [kind]
  | .anyOf kinds => kinds

/-- Names in a row, the last set off by "or". -/
def listing : List TokenKind → String
  | [] => ""
  | [k] => k.name
  | [k, l] => k.name ++ " or " ++ l.name
  | k :: rest => k.name ++ ", " ++ listing rest

def text (e : Expectation) : String :=
  listing e.kinds

end Expectation

/-- A line that is no order. -/
inductive SyntaxError where
  /-- Another kind of token belongs here. -/
  | expected (what : Expectation) (found : Token)
  /-- The number does not fit an id or an amount. -/
  | numberOutOfRange (found : Token)
  /-- The order ends before the line does. -/
  | incomplete (found : Token)
  deriving DecidableEq, Repr

namespace SyntaxError

/-- The token at which the error is met. -/
def found : SyntaxError → Token
  | .expected _ t | .numberOutOfRange t | .incomplete t => t

/-- The byte of the trimmed line at which the error is met. -/
def offset (e : SyntaxError) : Nat :=
  e.found.offset

/-- A token as errors quote it: an unknown character in quotes, all else
by the name of its kind. -/
def quoted (t : Token) : String :=
  if t.kind = .unknown then "'" ++ t.text ++ "'" else t.kind.name

def message : SyntaxError → String
  | .expected what t =>
    "expected " ++ what.text ++ ", found " ++ quoted t ++ " at offset " ++
      Text.decimal t.offset
  | .numberOutOfRange t =>
    "number " ++ t.text ++ " at offset " ++ Text.decimal t.offset ++ " is too large"
  | .incomplete t =>
    "incomplete command: unexpected " ++ quoted t ++ " at offset " ++ Text.decimal t.offset

end SyntaxError

end FleetOrders
