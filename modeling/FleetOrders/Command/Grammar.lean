/-
FleetOrders.Command.Grammar — the order language as a table.

The table lists the shape of every complete command, with an example and
one line of explanation. Help screens show it; reading does not use it.
-/
import FleetOrders.Command
import FleetOrders.Token

namespace FleetOrders

namespace Grammar

/-- A part of the shape of a command. -/
inductive Element where
  | token (kind : TokenKind)
  /-- A sequence, once or more. -/
  | repeated (sequence : List Element)
  /-- Exactly one of several sequences. -/
  | oneOf (options : List (List Element))
  deriving Repr

mutual

/-- An element as help screens show it. -/
def Element.text : Element → String
  | .token kind => kind.name
  | .repeated sequence => "(" ++ sequenceText sequence ++ ")+"
  | .oneOf options => "(" ++ optionsText options ++ ")"

/-- Elements in a row. -/
def sequenceText : List Element → String
  | [] => ""
  | [e] => e.text
  | e :: rest => e.text ++ " " ++ sequenceText rest

/-- Alternatives in a row. -/
def optionsText : List (List Element) → String
  | [] => ""
  | [o] => sequenceText o
  | o :: rest => sequenceText o ++ " | " ++ optionsText rest

end

/-- The shape of one kind of command. -/
structure Production where
  kind : CommandKind
  elements : List Element
  /-- An order of this shape. -/
  sample : String
  summary : String
  deriving Repr

/-- The shape as help screens show it. -/
def Production.text (p : Production) : String :=
  sequenceText p.elements

/-- Where ships may go. -/
def shipTarget : Element :=
  .oneOf [[.token .industry], [.token .population], [.token .fleetMark, .token .number]]

/-- The shape of every complete command. -/
def productions : List Production := [
  { kind := .move
    elements := [.token .fleetMark, .token .number,
      .repeated [.token .worldMark, .token .number]]
    sample := "F5W1W3W10"
    summary := "Move a fleet along connected worlds" },
  { kind := .build
    elements := [.token .worldMark, .token .number, .token .build, .token .number, shipTarget]
    sample := "W3B25I"
    summary := "Build ships at a world for its defences or a fleet" },
  { kind := .transfer
    elements := [.token .fleetMark, .token .number, .token .transfer, .token .number,
      shipTarget]
    sample := "F5T10F7"
    summary := "Transfer ships from a fleet to defences or another fleet" },
  { kind := .fireAtWorld
    elements := [.token .fleetMark, .token .number, .token .attack,
      .oneOf [[.token .population], [.token .industry]]]
    sample := "F5AP"
    summary := "Fire at a world's population or industry" },
  { kind := .fireAtFleet
    elements := [.token .fleetMark, .token .number, .token .attack, .token .fleetMark,
      .token .number]
    sample := "F5AF9"
    summary := "Fire at another fleet at the same world" },
  { kind := .ambush
    elements := [.token .fleetMark, .token .number, .token .attack]
    sample := "F5A"
    summary := "Ambush fleets arriving at the current world" },
  { kind := .join
    elements := [.token .join, .token .joinText]
    sample := "JOIN Merchant Bob"
    summary := "Join the game as a character type" },
  { kind := .turn
    elements := [.token .turn]
    sample := "TURN"
    summary := "Finish entering orders for this turn" }]

/-- The shape of commands of the given kind, if they are complete. -/
def production? (kind : CommandKind) : Option Production :=
  productions.find? fun p => p.kind == kind

end Grammar

end FleetOrders
