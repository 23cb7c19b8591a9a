/-
FleetOrders.Command — orders as values.

A command is complete, and then it has one wire text and may be sent, or
it is partial: the beginning of an order, met while the player types.

* `Destination`, `Resource` — where ships go, what a fleet fires at.
* `Command`, `CommandKind` — an order, and its shape alone.
* `wire?` — the canonical text of a complete command.
* `text` — the command in words.
-/
import FleetOrders.Ids

namespace FleetOrders

open Text (decimal)

/-- Where built or transferred ships go. -/
inductive Destination where
  /-- The defence of industry. -/
  | industry
  /-- The defence of the population. -/
  | population
  | fleet (id : FleetId)
  deriving DecidableEq, Repr

namespace Destination

/-- A destination as orders write it. -/
def wire : Destination → String
  | .industry => "I"
  | .population => "P"
  | .fleet id => id.text

/-- A destination in words. -/
def text : Destination → String
  | .industry => "industry defence"
  | .population => "population defence"
  | .fleet id => id.text

end Destination

/-- What a fleet fires at on a world. -/
inductive Resource where
  | population
  | industry
  deriving DecidableEq, Repr

namespace Resource

/-- A resource as orders write it. -/
def wire : Resource → String
  | .population => "P"
  | .industry => "I"

/-- A resource in words. -/
def text : Resource → String
  | .population => "population"
  | .industry => "industry"

end Resource

/-- An order, or the beginning of one. -/
inductive Command where
  /-- `F<fleet>W<world>[W<world>...]`; the path names at least one world. -/
  | move (fleet : FleetId) (path : List WorldId)
  /-- `W<world>B<amount>` and a destination. -/
  | build (world : WorldId) (amount : UInt32) (destination : Destination)
  /-- `F<fleet>T<amount>` and a destination. -/
  | transfer (fleet : FleetId) (amount : UInt32) (destination : Destination)
  /-- `F<fleet>AP` or `F<fleet>AI` -/
  | fireAtWorld (fleet : FleetId) (target : Resource)
  /-- `F<fleet>AF<fleet>` -/
  | fireAtFleet (fleet target : FleetId)
  /-- `F<fleet>A` -/
  | ambush (fleet : FleetId)
  /-- `JOIN` and free text. -/
  | join (text : String)
  /-- `TURN` -/
  | turn
  /-- A fleet with no action yet. -/
  | partialFleet (fleet : FleetId)
  /-- A world with no action yet. -/
  | partialWorld (world : WorldId)
  /-- A transfer with no destination yet. -/
  | partialTransfer (fleet : FleetId) (amount : UInt32)
  /-- A build with no destination yet. -/
  | partialBuild (world : WorldId) (amount : UInt32)
  /-- `JOIN` with no text yet. -/
  | partialJoin
  deriving DecidableEq, Repr

/-- The shape of a command without what it speaks of. -/
inductive CommandKind where
  | move
  | build
  | transfer
  | fireAtWorld
  | fireAtFleet
  | ambush
  | join
  | turn
  | partialFleet
  | partialWorld
  | partialTransfer
  | partialBuild
  | partialJoin
  deriving DecidableEq, Repr

namespace Command

/-- The shape of a command. -/
def kind : Command → CommandKind
  | .move .. => .move
  | .build .. => .build
  | .transfer .. => .transfer
  | .fireAtWorld .. => .fireAtWorld
  | .fireAtFleet .. => .fireAtFleet
  | .ambush .. => .ambush
  | .join .. => .join
  | .turn => .turn
  | .partialFleet .. => .partialFleet
  | .partialWorld .. => .partialWorld
  | .partialTransfer .. => .partialTransfer
  | .partialBuild .. => .partialBuild
  | .partialJoin => .partialJoin

/-- The command is only the beginning of an order. -/
def isPartial : Command → Bool
  | .partialFleet .. | .partialWorld .. | .partialTransfer .. | .partialBuild ..
  | .partialJoin => true
  | _ => false

/-- The command may be sent. -/
def isComplete (c : Command) : Bool :=
  !c.isPartial

/-- The fleet that carries the order out, if a fleet does. -/
def actingFleet? : Command → Option FleetId
  | .move fleet _ | .transfer fleet _ _ | .fireAtWorld fleet _ | .fireAtFleet fleet _
  | .ambush fleet | .partialFleet fleet | .partialTransfer fleet _ => some fleet
  | _ => none

/-- The canonical text of a complete command; a partial one has none. -/
def wire? : Command → Option String
  | .move fleet path => some (fleet.text ++ String.join (path.map WorldId.text))
  | .build world amount destination =>
    some (world.text ++ "B" ++ decimal amount.toNat ++ destination.wire)
  | .transfer fleet amount destination =>
    some (fleet.text ++ "T" ++ decimal amount.toNat ++ destination.wire)
  | .fireAtWorld fleet target => some (fleet.text ++ "A" ++ target.wire)
  | .fireAtFleet fleet target => some (fleet.text ++ "A" ++ target.text)
  | .ambush fleet => some (fleet.text ++ "A")
  | .join text => some ("JOIN " ++ text)
  | .turn => some "TURN"
  | .partialFleet .. | .partialWorld .. | .partialTransfer .. | .partialBuild ..
  | .partialJoin => none

/-- The command in words. -/
def text : Command → String
  | .move fleet path =>
    "Move " ++ fleet.text ++ String.join (path.map fun w => " -> " ++ w.text)
  | .build world amount destination =>
    "Build " ++ decimal amount.toNat ++ " ships at " ++ world.text ++ " for " ++
      destination.text
  | .transfer fleet amount destination =>
    "Transfer " ++ decimal amount.toNat ++ " ships from " ++ fleet.text ++ " to " ++
      destination.text
  | .fireAtWorld fleet target => fleet.text ++ " fires at world " ++ target.text
  | .fireAtFleet fleet target => fleet.text ++ " fires at " ++ target.text
  | .ambush fleet => fleet.text ++ " lies in ambush"
  | .join text => "Join game as " ++ text
  | .turn => "End turn"
  | .partialFleet fleet => fleet.text ++ " ..."
  | .partialWorld world => world.text ++ " ..."
  | .partialTransfer fleet amount =>
    "Transfer " ++ decimal amount.toNat ++ " ships from " ++ fleet.text ++ " ..."
  | .partialBuild world amount =>
    "Build " ++ decimal amount.toNat ++ " ships at " ++ world.text ++ " ..."
  | .partialJoin => "Join game ..."

/-- A command has a wire text exactly when it may be sent. -/
theorem isSome_wire? (c : Command) : c.wire?.isSome = c.isComplete := by
  cases c <;> rfl

theorem isComplete_of_wire? {c : Command} {wire : String} (h : c.wire? = some wire) :
    c.isComplete = true := by
  rw [← c.isSome_wire?, h]
  rfl

end Command

end FleetOrders
