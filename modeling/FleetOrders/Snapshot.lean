/-
FleetOrders.Snapshot — everything that the judging and completing of an
order may read.

* `World`, `Fleet` — a node of the map, a group of ships. An owner of
  `none` is nobody; a fleet at `none` is in transit.
* `OrderKind`, `QueuedOrder` — the orders already given this turn.
* `Snapshot` — the map as one player sees it.
* `Snapshot.Built` — it was put together entity by entity.

Rosters are filed under the number that an entity was entered under. What
a listing shows is the entity's own number; a snapshot that was read from
bytes may file an entity under another number than its own.
-/
import FleetOrders.Ids
import FleetOrders.Roster

namespace FleetOrders

/-- A node of the map. -/
structure World where
  id : WorldId
  owner : Option String
  industry : UInt32
  population : UInt32
  /-- The worlds that can be reached in one hop. -/
  connections : List WorldId
  deriving DecidableEq, Repr

/-- A group of ships. -/
structure Fleet where
  id : FleetId
  owner : Option String
  /-- Where the fleet is stationed, `none` while it is in transit. -/
  station : Option WorldId
  ships : UInt32
  cargo : UInt32
  deriving DecidableEq, Repr

/-- The kinds of order that may wait in the queue of a turn. -/
inductive OrderKind where
  | move
  | fire
  | ambush
  | build
  | transfer
  deriving DecidableEq, Repr

namespace OrderKind

/-- A fleet holds at most one exclusive order in a turn. -/
def isExclusive : OrderKind → Bool
  | .move | .fire | .ambush => true
  | .build | .transfer => false

/-- The kind as messages write it. -/
def text : OrderKind → String
  | .move => "MOVE"
  | .fire => "FIRE"
  | .ambush => "AMBUSH"
  | .build => "BUILD"
  | .transfer => "TRANSFER"

end OrderKind

/-- An order that waits for the end of the turn. -/
structure QueuedOrder where
  fleet : FleetId
  kind : OrderKind
  deriving DecidableEq, Repr

/-- The map as one player sees it at one moment. -/
structure Snapshot where
  player : String
  joined : Bool
  worlds : Roster World
  fleets : Roster Fleet
  /-- The orders of this turn, first given first. -/
  orders : List QueuedOrder
  deriving DecidableEq

namespace Snapshot

/-- The snapshot of a player who has not joined and sees nothing. -/
def ofPlayer (player : String) : Snapshot :=
  ⟨player, false, .empty, .empty, []⟩

/-! ## Changes -/

/-- The snapshot with a world filed under its own number. -/
def addWorld (s : Snapshot) (w : World) : Snapshot :=
  { s with worlds := s.worlds.insert w.id.number w }

/-- The snapshot with a fleet filed under its own number. -/
def addFleet (s : Snapshot) (f : Fleet) : Snapshot :=
  { s with fleets := s.fleets.insert f.id.number f }

/-- The snapshot with one more order at the end of the queue. -/
def queue (s : Snapshot) (o : QueuedOrder) : Snapshot :=
  { s with orders := s.orders ++ [o] }

/-! ## Questions -/

def world? (s : Snapshot) (w : WorldId) : Option World :=
  s.worlds.get? w.number

def fleet? (s : Snapshot) (f : FleetId) : Option Fleet :=
  s.fleets.get? f.number

/-- The owner is the player of this snapshot. -/
def isMine (s : Snapshot) (owner : Option String) : Bool :=
  owner == some s.player

/-- The player's fleets, by ascending number. -/
def ownFleets (s : Snapshot) : List Fleet :=
  s.fleets.values.filter fun f => s.isMine f.owner

/-- The player's worlds, by ascending number. -/
def ownWorlds (s : Snapshot) : List World :=
  s.worlds.values.filter fun w => s.isMine w.owner

/-- The fleets stationed at a world, whoever owns them. -/
def fleetsAt (s : Snapshot) (w : WorldId) : List Fleet :=
  s.fleets.values.filter fun f => f.station == some w

/-- The orders that wait for a fleet, first given first. -/
def ordersFor (s : Snapshot) (f : FleetId) : List QueuedOrder :=
  s.orders.filter fun o => o.fleet == f

/-! ## Snapshots put together by changes -/

/-- The snapshot was made from that of a player who sees nothing, one
change after the other. -/
inductive Built : Snapshot → Prop where
  | ofPlayer (player : String) : Built (ofPlayer player)
  | joining {s : Snapshot} (joined : Bool) : Built s → Built { s with joined }
  | addWorld {s : Snapshot} (w : World) : Built s → Built (s.addWorld w)
  | addFleet {s : Snapshot} (f : Fleet) : Built s → Built (s.addFleet f)
  | queue {s : Snapshot} (o : QueuedOrder) : Built s → Built (s.queue o)

/-- Such a snapshot files every fleet under the fleet's own number. -/
theorem Built.number_of_mem {s : Snapshot} (h : s.Built) :
    ∀ e ∈ s.fleets.entries, e.2.id.number = e.1 := by
  induction h with
  | ofPlayer player =>
    intro e he
    cases he
  | joining joined _ ih => exact ih
  | addWorld w _ ih => exact ih
  | addFleet f _ ih =>
    intro e he
    rcases Roster.mem_place he with rfl | he
    · rfl
    · exact ih e he
  | queue o _ ih => exact ih

theorem Built.id_of_fleet? {s : Snapshot} (h : s.Built) {id : FleetId} {f : Fleet}
    (hf : s.fleet? id = some f) : f.id = id :=
  FleetId.eq_of_number (h.number_of_mem _ (Roster.mem_of_get? hf))

end Snapshot

/-- `other` can be reached from the world in one hop. -/
def World.leadsTo (w : World) (other : WorldId) : Bool :=
  w.connections.contains other

/-- The fleet is at a world, not in transit. -/
def Fleet.isStationed (f : Fleet) : Bool :=
  f.station.isSome

end FleetOrders
