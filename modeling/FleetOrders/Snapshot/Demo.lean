/-
FleetOrders.Snapshot.Demo — a small map to try the console on.
-/
import FleetOrders.Snapshot

namespace FleetOrders.Snapshot

private def demoWorld (n : UInt32) (owner : Option String) (industry population : UInt32)
    (connections : List UInt32) : World :=
  ⟨⟨n⟩, owner, industry, population, connections.map WorldId.mk⟩

private def demoFleet (n : UInt32) (owner : String) (station : Option UInt32)
    (ships : UInt32) : Fleet :=
  ⟨⟨n⟩, some owner, station.map WorldId.mk, ships, 0⟩

/-- Five worlds and five fleets, most of them the player's. -/
def demo : Snapshot :=
  let me := "Commander"
  let rival := "Vex"
  let worlds := [
    demoWorld 1 (some me) 12 40 [2, 3],
    demoWorld 2 none 4 10 [1, 4],
    demoWorld 3 (some me) 6 22 [1, 4, 5],
    demoWorld 4 (some rival) 9 30 [2, 3],
    demoWorld 5 none 0 0 [3]]
  let fleets := [
    demoFleet 1 me (some 1) 14,
    demoFleet 2 me (some 1) 3,
    demoFleet 3 me (some 3) 0,
    demoFleet 4 me none 6,
    demoFleet 9 rival (some 3) 8]
  fleets.foldl addFleet (worlds.foldl addWorld (ofPlayer me))

theorem built_demo : demo.Built :=
  ((((((((((Built.ofPlayer _).addWorld _).addWorld _).addWorld _).addWorld _).addWorld _).addFleet
    _).addFleet _).addFleet _).addFleet _).addFleet _

end FleetOrders.Snapshot
