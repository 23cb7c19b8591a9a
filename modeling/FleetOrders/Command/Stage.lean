/-
FleetOrders.Command.Stage — which part of an order the player is typing.

The stage is found from the kinds of the tokens alone: how many there are,
the first, and the third. It looks at no text and judges nothing, so a
line that cannot be read still has a stage.
-/
import FleetOrders.Token

namespace FleetOrders

/-- A place in an order to a fleet. -/
inductive FleetStage where
  | fleetId
  /-- The fleet is chosen and no action is recognised yet. -/
  | action
  | movePath
  | transferAmount
  | transferTarget
  /-- Right after `A`: an ambush, or a target may follow. -/
  | attackType
  | attackTarget
  deriving DecidableEq, Repr

/-- A place in an order to a world. -/
inductive WorldStage where
  | worldId
  /-- The world is chosen and no action is recognised yet. -/
  | action
  | buildAmount
  | buildTarget
  deriving DecidableEq, Repr

/-- What is being typed, and the place in it. -/
inductive Stage where
  | empty
  | fleet (stage : FleetStage)
  | world (stage : WorldStage)
  | join
  | turn
  /-- The line starts with no order that the language knows. -/
  | unknown
  deriving DecidableEq, Repr

namespace FleetStage

def name : FleetStage → String
  | .fleetId => "fleet_id"
  | .action => "action"
  | .movePath => "move_path"
  | .transferAmount => "transfer_amount"
  | .transferTarget => "transfer_target"
  | .attackType => "attack_type"
  | .attackTarget => "attack_target"

/-- The stage of an order to a fleet, from the number of tokens and the
kind of the third. -/
def ofThird (count : Nat) (third : Option TokenKind) : FleetStage :=
  if count ≤ 2 then .fleetId
  else
    match third with
    | some .worldMark => .movePath
    | some .transfer => if count ≤ 4 then .transferAmount else .transferTarget
    | some .attack => if count ≤ 3 then .attackType else .attackTarget
    | _ => .action

end FleetStage

namespace WorldStage

def name : WorldStage → String
  | .worldId => "world_id"
  | .action => "action"
  | .buildAmount => "build_amount"
  | .buildTarget => "build_target"

/-- The stage of an order to a world, from the number of tokens and the
kind of the third. -/
def ofThird (count : Nat) (third : Option TokenKind) : WorldStage :=
  if count ≤ 2 then .worldId
  else
    match third with
    | some .build => if count ≤ 4 then .buildAmount else .buildTarget
    | _ => .action

end WorldStage

namespace Stage

/-- What is being typed, without the place in it. -/
def subject : Stage → String
  | .empty => "empty"
  | .fleet _ => "fleet"
  | .world _ => "world"
  | .join => "join"
  | .turn => "turn"
  | .unknown => "unknown"

/-- The name of the place, where orders of the kind have several. -/
def place? : Stage → Option String
  | .fleet stage => some stage.name
  | .world stage => some stage.name
  | _ => none

/-- The stage in words: subject, slash, place. -/
def text (s : Stage) : String :=
  match s.place? with
  | some place => s.subject ++ "/" ++ place
  | none => s.subject

/-- The stage of a line, from the kinds of its tokens without the end
marker. -/
def ofKinds (kinds : List TokenKind) : Stage :=
  match kinds with
  | [] => .empty
  | .fleetMark :: _ => .fleet (.ofThird kinds.length kinds[2]?)
  | .worldMark :: _ => .world (.ofThird kinds.length kinds[2]?)
  | .join :: _ => .join
  | .turn :: _ => .turn
  | _ => .unknown

/-- The stage of a line, from its tokens. -/
def ofTokens (tokens : List Token) : Stage :=
  ofKinds ((tokens.filter (!·.isEnd)).map Token.kind)

end Stage

end FleetOrders
