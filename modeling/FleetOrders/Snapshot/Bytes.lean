/-
FleetOrders.Snapshot.Bytes — snapshots as MessagePack bytes.

A snapshot is a record of its fields under their names; worlds and fleets
are maps from numbers. Reading takes any form of a record, and does not
look at what follows it.
-/
import FleetOrders.MessagePack
import FleetOrders.Snapshot

namespace FleetOrders

open MessagePack

namespace OrderKind

/-- The kinds in the order of their places. -/
def all : List OrderKind :=
  [.move, .fire, .ambush, .build, .transfer]

/-- The kind as bytes name it. -/
def name : OrderKind → String
  | .move => "Move"
  | .fire => "Fire"
  | .ambush => "Ambush"
  | .build => "Build"
  | .transfer => "Transfer"

def read? (bs : Bytes) : Option (OrderKind × Bytes) := do
  let (place, rest) ← variant? (all.map name) bs
  let kind ← all[place]?
  some (kind, rest)

end OrderKind

/-! ## Writing -/

def FleetId.bytes (f : FleetId) : Bytes :=
  MessagePack.number f.number.toNat

def WorldId.bytes (w : WorldId) : Bytes :=
  MessagePack.number w.number.toNat

def World.bytes (w : World) : Bytes :=
  record [
    ("id", w.id.bytes),
    ("owner", optional text w.owner),
    ("industry", number w.industry.toNat),
    ("population", number w.population.toNat),
    ("connections", list WorldId.bytes w.connections)]

def Fleet.bytes (f : Fleet) : Bytes :=
  record [
    ("id", f.id.bytes),
    ("owner", optional text f.owner),
    ("world", optional WorldId.bytes f.station),
    ("ships", number f.ships.toNat),
    ("cargo", number f.cargo.toNat)]

def QueuedOrder.bytes (o : QueuedOrder) : Bytes :=
  record [("fleet", o.fleet.bytes), ("kind", text o.kind.name)]

def Roster.bytes {α : Type} (write : α → Bytes) (r : Roster α) : Bytes :=
  table (fun n => number n.toNat) write r.entries

/-- A snapshot as bytes. -/
def Snapshot.bytes (s : Snapshot) : Bytes :=
  record [
    ("player", text s.player),
    ("joined", bool s.joined),
    ("worlds", s.worlds.bytes World.bytes),
    ("fleets", s.fleets.bytes Fleet.bytes),
    ("orders", list QueuedOrder.bytes s.orders)]

/-! ## Reading -/

def FleetId.read? (bs : Bytes) : Option (FleetId × Bytes) :=
  (word32? bs).map fun p => (⟨p.1⟩, p.2)

def WorldId.read? (bs : Bytes) : Option (WorldId × Bytes) :=
  (word32? bs).map fun p => (⟨p.1⟩, p.2)

namespace World

/-- The fields of a world that were read so far. -/
structure Parts where
  id : Option WorldId
  owner : Option (Option String)
  industry : Option UInt32
  population : Option UInt32
  connections : Option (List WorldId)

def Parts.fill? (place : Nat) (p : Parts) (bs : Bytes) : Option (Parts × Bytes) :=
  match place with
  | 0 => (once? p.id WorldId.read? bs).map fun (x, r) => ({ p with id := some x }, r)
  | 1 => (once? p.owner (optional? string?) bs).map fun (x, r) =>
    ({ p with owner := some x }, r)
  | 2 => (once? p.industry word32? bs).map fun (x, r) => ({ p with industry := some x }, r)
  | 3 => (once? p.population word32? bs).map fun (x, r) =>
    ({ p with population := some x }, r)
  | 4 => (once? p.connections
      (list? WorldId.read? fun b => some ⟨b.toUInt32⟩) bs).map fun (x, r) =>
    ({ p with connections := some x }, r)
  | _ => none

/-- The world, if no field but the owner is missing. -/
def Parts.complete? (p : Parts) : Option World := do
  some ⟨← p.id, p.owner.getD none, ← p.industry, ← p.population, ← p.connections⟩

def layout : Record Parts World where
  names := ["id", "owner", "industry", "population", "connections"]
  blank := ⟨none, none, none, none, none⟩
  fill? := Parts.fill?
  complete? := Parts.complete?

end World

namespace Fleet

/-- The fields of a fleet that were read so far. -/
structure Parts where
  id : Option FleetId
  owner : Option (Option String)
  station : Option (Option WorldId)
  ships : Option UInt32
  cargo : Option UInt32

def Parts.fill? (place : Nat) (p : Parts) (bs : Bytes) : Option (Parts × Bytes) :=
  match place with
  | 0 => (once? p.id FleetId.read? bs).map fun (x, r) => ({ p with id := some x }, r)
  | 1 => (once? p.owner (optional? string?) bs).map fun (x, r) =>
    ({ p with owner := some x }, r)
  | 2 => (once? p.station (optional? WorldId.read?) bs).map fun (x, r) =>
    ({ p with station := some x }, r)
  | 3 => (once? p.ships word32? bs).map fun (x, r) => ({ p with ships := some x }, r)
  | 4 => (once? p.cargo word32? bs).map fun (x, r) => ({ p with cargo := some x }, r)
  | _ => none

/-- The fleet, if no field but the owner and the station is missing. -/
def Parts.complete? (p : Parts) : Option Fleet := do
  some ⟨← p.id, p.owner.getD none, p.station.getD none, ← p.ships, ← p.cargo⟩

def layout : Record Parts Fleet where
  names := ["id", "owner", "world", "ships", "cargo"]
  blank := ⟨none, none, none, none, none⟩
  fill? := Parts.fill?
  complete? := Parts.complete?

end Fleet

namespace QueuedOrder

/-- The fields of an order that were read so far. -/
structure Parts where
  fleet : Option FleetId
  kind : Option OrderKind

def Parts.fill? (place : Nat) (p : Parts) (bs : Bytes) : Option (Parts × Bytes) :=
  match place with
  | 0 => (once? p.fleet FleetId.read? bs).map fun (x, r) => ({ p with fleet := some x }, r)
  | 1 => (once? p.kind OrderKind.read? bs).map fun (x, r) => ({ p with kind := some x }, r)
  | _ => none

def Parts.complete? (p : Parts) : Option QueuedOrder := do
  some ⟨← p.fleet, ← p.kind⟩

def layout : Record Parts QueuedOrder where
  names := ["fleet", "kind"]
  blank := ⟨none, none⟩
  fill? := Parts.fill?
  complete? := Parts.complete?

end QueuedOrder

namespace Snapshot

/-- How many levels of lists and maps a snapshot may open, itself
included. -/
def maxDepth : Nat := 1023

def readRoster? {α : Type} (read : Bytes → Option (α × Bytes)) (bs : Bytes) :
    Option (Roster α × Bytes) :=
  (table? word32? read bs).map fun p => (.ofEntries p.1, p.2)

/-- A field of the snapshot opens one level below it. -/
def fieldRoom : Nat := maxDepth - 1

/-- A field of a world, fleet or order opens three levels below the
snapshot. -/
def entityRoom : Nat := maxDepth - 3

/-- The fields of a snapshot that were read so far. -/
structure Parts where
  player : Option String
  joined : Option Bool
  worlds : Option (Roster World)
  fleets : Option (Roster Fleet)
  orders : Option (List QueuedOrder)

def Parts.fill? (place : Nat) (p : Parts) (bs : Bytes) : Option (Parts × Bytes) :=
  match place with
  | 0 => (once? p.player string? bs).map fun (x, r) => ({ p with player := some x }, r)
  | 1 => (once? p.joined bool? bs).map fun (x, r) => ({ p with joined := some x }, r)
  | 2 => (once? p.worlds (readRoster? (World.layout.read? entityRoom)) bs).map fun (x, r) =>
    ({ p with worlds := some x }, r)
  | 3 => (once? p.fleets (readRoster? (Fleet.layout.read? entityRoom)) bs).map fun (x, r) =>
    ({ p with fleets := some x }, r)
  | 4 => (once? p.orders
      (list? (QueuedOrder.layout.read? entityRoom) fun _ => none) bs).map fun (x, r) =>
    ({ p with orders := some x }, r)
  | _ => none

def Parts.complete? (p : Parts) : Option Snapshot := do
  some ⟨← p.player, ← p.joined, ← p.worlds, ← p.fleets, ← p.orders⟩

def layout : Record Parts Snapshot where
  names := ["player", "joined", "worlds", "fleets", "orders"]
  blank := ⟨none, none, none, none, none⟩
  fill? := Parts.fill?
  complete? := Parts.complete?

/-- The snapshot that the bytes start with. -/
def ofBytes? (bs : Bytes) : Option Snapshot :=
  (layout.read? fieldRoom bs).map (·.1)

end Snapshot

end FleetOrders
