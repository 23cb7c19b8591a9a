/-
FleetOrders.Proofs.SnapshotRoundTrip — a snapshot is read back from its
bytes.

The bytes of a record name its fields in their order, so reading them fills
one field after the other (`MessagePack.Record.Fills`), and every field
reads back by the rules for its type. Nothing is asked of the numbers under
which worlds and fleets are filed: a roster is written with them, and filing
its listing anew gives the same roster.

* `World.readsBack`, `Fleet.readsBack`, `QueuedOrder.readsBack`,
  `Snapshot.readsBack` — the four records.
* `Snapshot.ofBytes?_bytes` — a snapshot is read back, whatever follows its
  bytes.
-/
import FleetOrders.Proofs.MessagePackRoundTrip
import FleetOrders.Snapshot.Bytes
import FleetOrders.Snapshot.Demo

namespace FleetOrders

open MessagePack

/-! ## What the bytes have room for -/

/-- The bytes of the text can be counted in 32 bits. -/
def MessagePack.Short (s : String) : Prop :=
  (Text.utf8 s).length < UInt32.size

instance (s : String) : Decidable (MessagePack.Short s) :=
  inferInstanceAs (Decidable (_ < _))

/-- The texts and lists of the world can be counted in 32 bits. -/
def World.Fits (w : World) : Prop :=
  (∀ owner ∈ w.owner, Short owner) ∧ w.connections.length < UInt32.size

/-- The owner of the fleet can be written. -/
def Fleet.Fits (f : Fleet) : Prop :=
  ∀ owner ∈ f.owner, Short owner

instance (w : World) : Decidable w.Fits :=
  inferInstanceAs (Decidable (_ ∧ _))

instance (f : Fleet) : Decidable f.Fits :=
  inferInstanceAs (Decidable (∀ owner ∈ f.owner, Short owner))

/-- Every text and every collection of the snapshot can be counted in 32
bits, which is what their bytes have room for. -/
structure Snapshot.Fits (s : Snapshot) : Prop where
  player : Short s.player
  worlds_length : s.worlds.entries.length < UInt32.size
  worlds : ∀ e ∈ s.worlds.entries, e.2.Fits
  fleets_length : s.fleets.entries.length < UInt32.size
  fleets : ∀ e ∈ s.fleets.entries, e.2.Fits
  orders_length : s.orders.length < UInt32.size

/-! ## Numbers, owners, kinds and rosters -/

theorem FleetId.readsBack (f : FleetId) : ReadsBack FleetId.bytes FleetId.read? f :=
  (readsBack_word f.number).map FleetId.mk FleetId.number rfl

theorem WorldId.readsBack (w : WorldId) : ReadsBack WorldId.bytes WorldId.read? w :=
  (readsBack_word w.number).map WorldId.mk WorldId.number rfl

theorem WorldId.isShown (w : WorldId) : IsShown WorldId.bytes w :=
  isShown_word w.number

theorem readsBack_owner {owner : Option String} (h : ∀ name ∈ owner, Short name) :
    ReadsBack (optional text) (optional? string?) owner :=
  readsBack_optional (fun name hname => readsBack_text (h name hname))
    fun name _ => isShown_text name

/-- The name of a kind is short, and it stands in the place of the kind. -/
theorem OrderKind.name_facts (k : OrderKind) : Short k.name ∧
    ∃ place, placeOf? (all.map name) (Text.utf8 k.name) = some place ∧ all[place]? = some k := by
  cases k <;> exact ⟨by decide, _, rfl, rfl⟩

theorem OrderKind.readsBack (k : OrderKind) :
    ReadsBack (fun k : OrderKind => MessagePack.text k.name) OrderKind.read? k := by
  obtain ⟨hshort, place, hname, hkind⟩ := k.name_facts
  intro rest
  have hhead := head?_textHead (Text.utf8 k.name).length (Text.utf8 k.name ++ rest)
  have hfield := field?_text hshort hname rest
  have hvariant : variant? (all.map name) (MessagePack.text k.name ++ rest) =
      some (place, rest) := by
    unfold variant?
    rw [choice?, hfield, MessagePack.text, List.append_assoc, hhead]
  simp [read?, hvariant, hkind]

/-- A roster reads back if its entities do, whatever numbers they are filed
under. -/
theorem Roster.readsBack {α : Type} {write : α → Bytes} {read : Bytes → Option (α × Bytes)}
    {r : Roster α} (hlength : r.entries.length < UInt32.size)
    (h : ∀ e ∈ r.entries, ReadsBack write read e.2) :
    ReadsBack (Roster.bytes write) (Snapshot.readRoster? read) r := by
  have htable := readsBack_table hlength (fun e _ => readsBack_word e.1) h
  intro rest
  rw [Roster.bytes, Snapshot.readRoster?, htable rest]
  simp

/-! ## Records -/

/-- A field that was not read yet takes the value that reads back. -/
theorem map_once? {α β : Type} {write : α → Bytes} {read : Bytes → Option (α × Bytes)} {x : α}
    (h : ReadsBack write read x) (put : α × Bytes → β × Bytes) (rest : Bytes) :
    (once? none read (write x ++ rest)).map put = some (put (x, rest)) := by
  rw [once?, h rest]
  rfl

theorem World.readsBack {w : World} (h : w.Fits) (room : Nat) :
    ReadsBack World.bytes (World.layout.read? room) w := by
  have howner := readsBack_owner h.1
  have hconnections := readsBack_list h.2 (fun v _ => WorldId.readsBack v)
    fun b => some ⟨b.toUInt32⟩
  refine Record.readsBack (z := ⟨some w.id, some w.owner, some w.industry, some w.population,
    some w.connections⟩) (by rw [World.bytes]) (by simp [UInt32.size]) ?_ rfl room
  refine .cons 0 rfl (by decide) (map_once? (WorldId.readsBack w.id) _) ?_
  refine .cons 1 rfl (by decide) (map_once? howner _) ?_
  refine .cons 2 rfl (by decide) (map_once? (readsBack_word w.industry) _) ?_
  refine .cons 3 rfl (by decide) (map_once? (readsBack_word w.population) _) ?_
  exact .cons 4 rfl (by decide) (map_once? hconnections _) (.nil _)

theorem Fleet.readsBack {f : Fleet} (h : f.Fits) (room : Nat) :
    ReadsBack Fleet.bytes (Fleet.layout.read? room) f := by
  have howner := readsBack_owner h
  have hstation := readsBack_optional (x := f.station) (fun w _ => WorldId.readsBack w)
    fun w _ => WorldId.isShown w
  refine Record.readsBack (z := ⟨some f.id, some f.owner, some f.station, some f.ships,
    some f.cargo⟩) (by rw [Fleet.bytes]) (by simp [UInt32.size]) ?_ rfl room
  refine .cons 0 rfl (by decide) (map_once? (FleetId.readsBack f.id) _) ?_
  refine .cons 1 rfl (by decide) (map_once? howner _) ?_
  refine .cons 2 rfl (by decide) (map_once? hstation _) ?_
  refine .cons 3 rfl (by decide) (map_once? (readsBack_word f.ships) _) ?_
  exact .cons 4 rfl (by decide) (map_once? (readsBack_word f.cargo) _) (.nil _)

theorem QueuedOrder.readsBack (o : QueuedOrder) (room : Nat) :
    ReadsBack QueuedOrder.bytes (QueuedOrder.layout.read? room) o := by
  refine Record.readsBack (z := ⟨some o.fleet, some o.kind⟩) (by rw [QueuedOrder.bytes])
    (by simp [UInt32.size]) ?_ rfl room
  refine .cons 0 rfl (by decide) (map_once? (FleetId.readsBack o.fleet) _) ?_
  exact .cons 1 rfl (by decide) (map_once? (OrderKind.readsBack o.kind) _) (.nil _)

namespace Snapshot

theorem readsBack {s : Snapshot} (h : s.Fits) (room : Nat) :
    ReadsBack Snapshot.bytes (layout.read? room) s := by
  have hworlds := Roster.readsBack h.worlds_length fun e he =>
    World.readsBack (h.worlds e he) entityRoom
  have hfleets := Roster.readsBack h.fleets_length fun e he =>
    Fleet.readsBack (h.fleets e he) entityRoom
  have horders := readsBack_list h.orders_length
    (fun o _ => QueuedOrder.readsBack o entityRoom) fun _ => none
  refine Record.readsBack (z := ⟨some s.player, some s.joined, some s.worlds, some s.fleets,
    some s.orders⟩) (by rw [Snapshot.bytes]) (by simp [UInt32.size]) ?_ rfl room
  refine .cons 0 rfl (by decide) (map_once? (readsBack_text h.player) _) ?_
  refine .cons 1 rfl (by decide) (map_once? (readsBack_bool s.joined) _) ?_
  refine .cons 2 rfl (by decide) (map_once? hworlds _) ?_
  refine .cons 3 rfl (by decide) (map_once? hfleets _) ?_
  exact .cons 4 rfl (by decide) (map_once? horders _) (.nil _)

/-- A snapshot is read back from its bytes, and also from its bytes with
anything behind them. -/
theorem ofBytes?_bytes (s : Snapshot) (h : s.Fits) :
    ofBytes? s.bytes = some s ∧ ∀ junk, ofBytes? (s.bytes ++ junk) = some s := by
  have hread : ∀ junk, ofBytes? (s.bytes ++ junk) = some s := by
    intro junk
    rw [ofBytes?, readsBack h fieldRoom junk]
    rfl
  refine ⟨?_, hread⟩
  simpa using hread []

/-- The demonstration map with an order in the queue, and with a fleet in
transit filed under a number that is not its own. -/
theorem ofBytes?_bytes_demo : ∃ s : Snapshot,
    s.fleet? ⟨70000⟩ = some ⟨⟨9⟩, none, none, 200, 0⟩ ∧ s.Fits ∧ s.orders.length = 1 ∧
    ofBytes? s.bytes = some s ∧ ofBytes? (s.bytes ++ [0xC1, 0x00]) = some s := by
  let s : Snapshot := { demo.queue ⟨⟨1⟩, .ambush⟩ with
    fleets := demo.fleets.insert 70000 ⟨⟨9⟩, none, none, 200, 0⟩ }
  have hfits : s.Fits :=
    ⟨by decide +kernel, by decide +kernel, by decide +kernel, by decide +kernel,
      by decide +kernel, by decide +kernel⟩
  obtain ⟨hread, hjunk⟩ := ofBytes?_bytes s hfits
  exact ⟨s, by decide +kernel, hfits, rfl, hread, hjunk _⟩

end Snapshot

end FleetOrders
