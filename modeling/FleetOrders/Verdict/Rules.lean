/-
FleetOrders.Verdict.Rules — the single rules that judging is made of.

Each rule is a question to a snapshot. None of them says what a failure
means for an order; that is for the assessment.

* `ownFleet`, `ownWorld` — an entity the player must own.
* `exclusiveOrder?` — the exclusive order that a fleet holds already.
* `checkAmount` — a positive amount within what is there.
* `checkPath` — a path that follows connections.
* `areTogether` — two fleets at one world.
-/
import FleetOrders.Fault
import FleetOrders.Snapshot

namespace FleetOrders

/-- Why an entity is not the player's to use. -/
inductive OwnershipError where
  /-- The snapshot holds no such entity. -/
  | missing (subject : Subject)
  /-- It belongs to another player, or to nobody. -/
  | foreign (subject : Subject) (owner : Option String)
  deriving DecidableEq, Repr

def OwnershipError.message : OwnershipError → String
  | .missing subject => subject.text ++ " does not exist"
  | .foreign subject (some owner) =>
    subject.text ++ " is not yours (owned by " ++ owner ++ ")"
  | .foreign subject none => subject.text ++ " is not yours (unowned)"

/-- Why an amount cannot be had. -/
inductive AmountError where
  | zero
  | insufficient (need available : UInt32)
  deriving DecidableEq, Repr

def AmountError.message : AmountError → String
  | .zero => "amount must be positive"
  | .insufficient need available =>
    "need " ++ Text.decimal need.toNat ++ ", have " ++ Text.decimal available.toNat

/-- How a walk along connections ends. -/
inductive PathCheck where
  | connected
  /-- The world at `source` has no connection to `goal`. -/
  | broken (source goal : WorldId)
  deriving DecidableEq, Repr

/-- A positive amount of at most what is available. -/
def checkAmount (amount available : UInt32) : Except AmountError Unit :=
  if amount = 0 then .error .zero
  else if available < amount then .error (.insufficient amount available)
  else .ok ()

namespace Snapshot

/-- The fleet of that number, which the player must own. -/
def ownFleet (s : Snapshot) (id : FleetId) : Except OwnershipError Fleet :=
  match s.fleet? id with
  | none => .error (.missing (.fleet id))
  | some f => if s.isMine f.owner then .ok f else .error (.foreign (.fleet id) f.owner)

/-- The world of that number, which the player must own. -/
def ownWorld (s : Snapshot) (id : WorldId) : Except OwnershipError World :=
  match s.world? id with
  | none => .error (.missing (.world id))
  | some w => if s.isMine w.owner then .ok w else .error (.foreign (.world id) w.owner)

/-- The first exclusive order that waits for a fleet. -/
def exclusiveOrder? (s : Snapshot) (f : FleetId) : Option OrderKind :=
  ((s.ordersFor f).map QueuedOrder.kind).find? OrderKind.isExclusive

/-- A walk from `start` along a path. The walk stops at the first hop that
follows no connection; a world that the walk stands on must be in the
snapshot. -/
def checkPath (s : Snapshot) (start : WorldId) : List WorldId → Except Fault PathCheck
  | [] => .ok .connected
  | goal :: rest =>
    match s.world? start with
    | none => .error (.missingWorld start)
    | some w => if w.leadsTo goal then s.checkPath goal rest else .ok (.broken start goal)

end Snapshot

/-- Both fleets are stationed, at one world. -/
def Fleet.areTogether (a b : Fleet) : Bool :=
  a.station.isSome && a.station == b.station

end FleetOrders
