/-
FleetOrders.Suggestion.Typed — the tokens that the player has typed, in
the form in which suggestions repeat them.

Suggestions are written in canonical text: no blanks between tokens, all
capitals, one space before the free text of `JOIN`.
-/
import FleetOrders.Ids
import FleetOrders.Suggestion
import FleetOrders.Token

namespace FleetOrders

/-- The tokens of a line without the end marker. -/
structure Typed where
  tokens : List Token
  deriving DecidableEq, Repr

namespace Typed

/-- The tokens before the end marker. -/
def ofTokens (tokens : List Token) : Typed :=
  ⟨tokens.takeWhile (!·.isEnd)⟩

/-- How many tokens were typed. -/
def count (t : Typed) : Nat :=
  t.tokens.length

/-- A token in canonical text. -/
def canonical (t : Token) : String :=
  if t.kind = .joinText then " " ++ t.text else t.text

/-- The canonical text of the first tokens. -/
def upTo (t : Typed) (n : Nat) : String :=
  String.join ((t.tokens.take n).map canonical)

/-- The canonical text of all tokens. -/
def text (t : Typed) : String :=
  t.upTo t.count

/-- The number at a place among the tokens, if there is one of 32 bits. -/
def number? (t : Typed) (place : Nat) : Option UInt32 :=
  match t.tokens[place]? with
  | some token => if token.kind = .number then Text.word32? token.text.toList else none
  | none => none

/-- The last token is a `W` that still waits for its digits. -/
def endsInBareWorld (t : Typed) : Bool :=
  match t.tokens.getLast? with
  | some token => token.kind == .unknown && token.text == "W"
  | none => false

/-- The worlds that the tokens name pair by pair, up to the first pair
that names none. -/
def worldPairs : List Token → List WorldId
  | mark :: digits :: rest =>
    if mark.kind = .worldMark ∧ digits.kind = .number then
      match Text.word32? digits.text.toList with
      | some n => ⟨n⟩ :: worldPairs rest
      | none => []
    else []
  | _ => []

/-- The worlds typed after the number of a fleet. -/
def hops (t : Typed) : List WorldId :=
  worldPairs (t.tokens.drop 2)

/-- The suggestions that go on from what was typed. -/
def keepExtending (t : Typed) (found : List Suggestion) : List Suggestion :=
  found.filter fun s => Text.isHeadOf t.text s.text

end Typed

end FleetOrders
