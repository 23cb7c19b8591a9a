/-
FleetOrders.Snapshot.Summary — a snapshot as a page of text.

Names of owners stand in a column of ten and counts in a column of three;
the numbers of worlds and fleets are not set in a column.
-/
import FleetOrders.Snapshot
import FleetOrders.Text.Column

namespace FleetOrders.Snapshot

open Text (padEnd padStart joinWith decimal)

/-- An owner's name, or a dash for nobody. -/
def ownerName (owner : Option String) : String :=
  owner.getD "-"

/-- One line about a world. -/
def worldLine (w : World) : String :=
  "  " ++ w.id.text ++ " " ++ padEnd 10 (ownerName w.owner) ++
    " ind " ++ padStart 3 (decimal w.industry.toNat) ++
    "  pop " ++ padStart 3 (decimal w.population.toNat) ++
    "  -> " ++ joinWith " " (w.connections.map WorldId.text)

/-- One line about a fleet. -/
def fleetLine (f : Fleet) : String :=
  "  " ++ f.id.text ++ " " ++ padEnd 10 (ownerName f.owner) ++ " " ++
    padStart 3 (decimal f.ships.toNat) ++ " ships  " ++
    match f.station with
    | some w => "at " ++ w.text
    | none => "in transit"

/-- The orders of the turn on a line of their own, if there are any. -/
def ordersLine (s : Snapshot) : String :=
  match s.orders with
  | [] => ""
  | orders =>
    "\nOrders this turn: " ++
      joinWith ", " (orders.map fun o => o.fleet.text ++ " " ++ o.kind.text)

/-- The whole snapshot: the player, every world, every fleet, the orders
of the turn. -/
def summary (s : Snapshot) : String :=
  "Player " ++ s.player ++ " (" ++ (if s.joined then "joined" else "not joined") ++ ")\n" ++
    "Worlds:\n" ++ String.join (s.worlds.values.map fun w => worldLine w ++ "\n") ++
    "Fleets:" ++ String.join (s.fleets.values.map fun f => "\n" ++ fleetLine f) ++
    s.ordersLine

end FleetOrders.Snapshot
