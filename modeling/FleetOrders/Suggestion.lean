/-
FleetOrders.Suggestion — what the player might type next.

A suggestion replaces the whole line. `remainder?` is the part of it that
is not typed yet, if the line is the beginning of it in any ASCII case.
-/
import FleetOrders.Text.Ascii
import FleetOrders.Text.Column
import FleetOrders.Text.Slice

namespace FleetOrders

/-- What a suggestion completes the line to. -/
inductive SuggestionKind where
  /-- The line as it stands, ready to be sent. -/
  | submit
  | fleet
  | world
  /-- The letter of an action. -/
  | action
  | amount
  /-- Where ships go, or what is fired at. -/
  | target
  /-- A character type for `JOIN`. -/
  | character
  /-- `JOIN` or `TURN`. -/
  | keyword
  deriving DecidableEq, Repr

namespace SuggestionKind

def name : SuggestionKind → String
  | .submit => "submit"
  | .fleet => "fleet"
  | .world => "world"
  | .action => "action"
  | .amount => "amount"
  | .target => "target"
  | .character => "character"
  | .keyword => "keyword"

/-- Every kind. -/
def all : List SuggestionKind :=
  [.submit, .fleet, .world, .action, .amount, .target, .character, .keyword]

/-- The kind of the given name. -/
def ofName? (s : String) : Option SuggestionKind :=
  all.find? fun k => k.name == s

end SuggestionKind

/-- A text that the line might become. -/
structure Suggestion where
  /-- What the whole line becomes. -/
  text : String
  /-- One line of explanation. -/
  description : String
  kind : SuggestionKind
  /-- The text is a command that may be sent. -/
  complete : Bool
  /-- The weight among suggestions for an empty line. -/
  priority : Option Int
  /-- The player may regret it. -/
  danger : Bool
  deriving DecidableEq, Repr

namespace Suggestion

/-- A suggestion of no weight and no danger, not known to be complete. -/
def plain (text description : String) (kind : SuggestionKind) : Suggestion :=
  ⟨text, description, kind, false, none, false⟩

/-- The same suggestion with a weight. -/
def weighing (s : Suggestion) (weight : Int) : Suggestion :=
  { s with priority := some weight }

/-- The same suggestion with another explanation. -/
def describedAs (s : Suggestion) (description : String) : Suggestion :=
  { s with description := description }

/-- The same suggestion marked as dangerous. -/
def dangerous (s : Suggestion) : Suggestion :=
  { s with danger := true }

/-- What the suggestion adds to `typed`, if it starts with it in any ASCII
case: the text is cut where `typed` would end in it. -/
def remainder? (s : Suggestion) (typed : String) : Option String :=
  match Text.cutAt? typed.utf8ByteSize s.text.toList with
  | some (head, rest) =>
    if head.map Text.upper = typed.toList.map Text.upper then some (String.ofList rest) else none
  | none => none

/-- The text and its explanation, the text in a column of fourteen. -/
def row (s : Suggestion) : String :=
  Text.padEnd 14 s.text ++ " " ++ s.description

/-- The row, with a mark at a dangerous suggestion. -/
def display (s : Suggestion) : String :=
  s.row ++ if s.danger then " (!)" else ""

end Suggestion

end FleetOrders
