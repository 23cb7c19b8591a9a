/-
FleetOrders.Verdict.Finding — everything that can be found about a command,
and how each finding is put into words.

* `Objection` — an error: why the command is not legal.
* `Caution` — a warning: the command is legal and may be regretted.
* `Hint` — what the player might do instead.
* `Findings` — the three lists about one command; `Findings.verdict` puts
  them into words.
-/
import FleetOrders.CharacterType
import FleetOrders.Command
import FleetOrders.Verdict
import FleetOrders.Verdict.Rules

namespace FleetOrders

open Text (decimal joinWith)

/-- What a fleet in transit cannot do. -/
inductive StationedAction where
  | move
  | transferToWorld
  | fireAtWorld
  | ambush
  deriving DecidableEq, Repr

def StationedAction.text : StationedAction → String
  | .move => "move"
  | .transferToWorld => "transfer to a world"
  | .fireAtWorld => "fire at a world"
  | .ambush => "ambush"

/-- What an order takes an amount of. -/
inductive Supply where
  /-- The ships of a fleet, for a transfer. -/
  | ships
  /-- The industry of a world, for a build. -/
  | industry
  deriving DecidableEq, Repr

/-- Why a command is not legal. -/
inductive Objection where
  /-- No command could be read. -/
  | nothingRead
  /-- The command is only the beginning of an order. -/
  | incomplete (command : Command)
  | ownership (error : OwnershipError)
  | noShips (fleet : FleetId)
  | inTransit (fleet : FleetId) (action : StationedAction)
  | notConnected (source goal : WorldId)
  | amount (supply : Supply) (error : AmountError)
  /-- The world under the fleet is not the player's. -/
  | foreignGarrison (world : WorldId)
  | transferToSelf (fleet : FleetId)
  | fireAtSelf (fleet : FleetId)
  /-- `other` is not where `actor` is. -/
  | apart (other actor : FleetId)
  | notAtWorld (fleet : FleetId) (world : WorldId)
  | joinWithoutText
  /-- The snapshot is inconsistent. -/
  | fault (fault : Fault)
  deriving DecidableEq, Repr

/-- Why a legal command may be regretted. -/
inductive Caution where
  /-- The fleet holds an exclusive order already. -/
  | replaces (fleet : FleetId) (kind : OrderKind)
  | nothingToHit (world : WorldId) (resource : Resource)
  | ownWorld (world : WorldId)
  | ownFleet (fleet : FleetId)
  | unknownCharacter (text : String)
  deriving DecidableEq, Repr

/-- What the player might do instead. -/
inductive Hint where
  | sample (order : String)
  | yourFleets (fleets : List FleetId)
  | yourWorlds (worlds : List WorldId)
  | yourFleetsAt (world : WorldId) (fleets : List FleetId)
  | connections (world : WorldId) (targets : List WorldId)
  | most (supply : Supply) (available : UInt32)
  | characterTypes
  deriving DecidableEq, Repr

/-! ## Wording -/

/-- Fleets in a row. -/
def listFleets (fleets : List FleetId) : String :=
  joinWith ", " (fleets.map FleetId.text)

/-- Worlds in a row. -/
def listWorlds (worlds : List WorldId) : String :=
  joinWith ", " (worlds.map WorldId.text)

def Objection.message : Objection → String
  | .nothingRead => "No valid command entered"
  | .incomplete command => "Incomplete command: " ++ command.text
  | .ownership error => error.message
  | .noShips fleet => "Fleet " ++ fleet.numeral ++ " has no ships"
  | .inTransit fleet action =>
    "Fleet " ++ fleet.numeral ++ " is in transit and cannot " ++ action.text
  | .notConnected source goal =>
    "World " ++ source.numeral ++ " is not connected to world " ++ goal.numeral
  | .amount .ships .zero => "Transfer amount must be positive"
  | .amount .industry .zero => "Build amount must be positive"
  | .amount .ships (.insufficient need available) =>
    "Insufficient ships: " ++ (AmountError.insufficient need available).message
  | .amount .industry (.insufficient need available) =>
    "Insufficient industry: " ++ (AmountError.insufficient need available).message
  | .foreignGarrison world =>
    "Cannot transfer to world " ++ world.numeral ++ ", which is not yours"
  | .transferToSelf fleet => "Fleet " ++ fleet.numeral ++ " cannot transfer to itself"
  | .fireAtSelf fleet => "Fleet " ++ fleet.numeral ++ " cannot fire at itself"
  | .apart other actor =>
    "Fleet " ++ other.numeral ++ " is not at the same world as fleet " ++ actor.numeral
  | .notAtWorld fleet world =>
    "Fleet " ++ fleet.numeral ++ " is not at world " ++ world.numeral
  | .joinWithoutText => "JOIN needs a character type"
  | .fault f => "Validation failed: " ++ f.message

def Caution.message : Caution → String
  | .replaces fleet kind =>
    "Fleet " ++ fleet.numeral ++ " already has a " ++ kind.text ++
      " order this turn; it will be replaced"
  | .nothingToHit world resource =>
    "World " ++ world.numeral ++ " has no " ++ resource.text ++ " to fire at"
  | .ownWorld world => "Firing at your own world " ++ world.numeral
  | .ownFleet fleet => "Attacking your own fleet " ++ fleet.numeral
  | .unknownCharacter text =>
    "No known character type in \"" ++ text ++ "\" (expected one of: " ++
      CharacterType.listing ++ ")"

def Hint.message : Hint → String
  | .sample order => "For example: " ++ order
  | .yourFleets [] => "You have no fleets"
  | .yourFleets fleets => "Your fleets: " ++ listFleets fleets
  | .yourWorlds [] => "You have no worlds"
  | .yourWorlds worlds => "Your worlds: " ++ listWorlds worlds
  | .yourFleetsAt world fleets =>
    "Your fleets at world " ++ world.numeral ++ ": " ++ listFleets fleets
  | .connections world [] => "World " ++ world.numeral ++ " has no connections"
  | .connections world targets =>
    "World " ++ world.numeral ++ " connects to: " ++ listWorlds targets
  | .most .ships available => "Maximum transferable: " ++ decimal available.toNat
  | .most .industry available => "Maximum buildable: " ++ decimal available.toNat
  | .characterTypes => "Character types: " ++ CharacterType.listing

/-! ## Findings about one command -/

/-- All that was found about one command, each list in the order of
finding. -/
structure Findings where
  objections : List Objection
  cautions : List Caution
  hints : List Hint
  deriving DecidableEq, Repr

namespace Findings

/-- Nothing was found. -/
def none : Findings :=
  ⟨[], [], []⟩

def ofObjection (o : Objection) : Findings :=
  ⟨[o], [], []⟩

def ofCaution (c : Caution) : Findings :=
  ⟨[], [c], []⟩

def ofHint (h : Hint) : Findings :=
  ⟨[], [], [h]⟩

/-- What was found first, then what was found after it. -/
def append (a b : Findings) : Findings :=
  ⟨a.objections ++ b.objections, a.cautions ++ b.cautions, a.hints ++ b.hints⟩

instance : Append Findings := ⟨append⟩

/-- The findings if the condition holds. -/
def given (condition : Bool) (f : Findings) : Findings :=
  if condition then f else .none

/-- The findings in words. -/
def verdict (f : Findings) : Verdict :=
  ⟨f.objections.map Objection.message, f.cautions.map Caution.message,
    f.hints.map Hint.message⟩

@[simp] theorem objections_append (a b : Findings) :
    (a ++ b).objections = a.objections ++ b.objections := rfl

@[simp] theorem cautions_append (a b : Findings) :
    (a ++ b).cautions = a.cautions ++ b.cautions := rfl

@[simp] theorem hints_append (a b : Findings) :
    (a ++ b).hints = a.hints ++ b.hints := rfl

end Findings

end FleetOrders
