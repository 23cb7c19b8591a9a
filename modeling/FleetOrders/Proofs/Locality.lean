/-
FleetOrders.Proofs.Locality — the errors and warnings about a command depend
on nothing but what the command touches.

Judging a command looks up a few worlds and fleets, and for its hints it
lists the worlds and fleets of the whole map. The listings go into hints only.

* `Command.TouchesFleet`, `Snapshot.TouchesWorld` — what a command touches.
* `Snapshot.AgreesOn` — two snapshots that are alike there.
* `Snapshot.unhinted_findings` — their judgements are alike up to hints. Every
  judgement that looks something up has a lemma of its own.
* `Change` — a world or fleet that is put in place or taken out, an order that
  is queued. A run of changes elsewhere leaves the snapshot alike where the
  command touches it (`Snapshot.agreesOn_foldl`).
* `judged_by_what_is_touched` — all of it, about verdicts.
-/
import FleetOrders.Proofs.PathDiagnosis

namespace FleetOrders

/-! ## What a command touches -/

namespace Command

/-- The fleet that the command is aimed at. -/
def targetFleet? : Command → Option FleetId
  | .fireAtFleet _ target => some target
  | .transfer _ _ (.fleet other) => some other
  | .build _ _ (.fleet receiver) => some receiver
  | _ => none

/-- The world that carries the order out, if a world does. -/
def actingWorld? : Command → Option WorldId
  | .build world _ _ | .partialWorld world | .partialBuild world _ => some world
  | _ => none

/-- The worlds on the path of a move. -/
def path : Command → List WorldId
  | .move _ path => path
  | _ => []

/-- The fleet carries the order out or is what it is aimed at. -/
def TouchesFleet (c : Command) (id : FleetId) : Prop :=
  c.actingFleet? = some id ∨ c.targetFleet? = some id

instance (c : Command) (id : FleetId) : Decidable (c.TouchesFleet id) :=
  inferInstanceAs (Decidable (_ ∨ _))

end Command

namespace Snapshot

/-- The world under the acting fleet. -/
def ground? (s : Snapshot) (c : Command) : Option WorldId :=
  (c.actingFleet?.bind s.fleet?).bind Fleet.station

/-- The world carries the order out, lies on the path, or is where the acting
fleet is. -/
def TouchesWorld (s : Snapshot) (c : Command) (id : WorldId) : Prop :=
  c.actingWorld? = some id ∨ id ∈ c.path ∨ s.ground? c = some id

instance (s : Snapshot) (c : Command) (id : WorldId) : Decidable (s.TouchesWorld c id) :=
  inferInstanceAs (Decidable (_ ∨ _ ∨ _))

/-- The other snapshot is of the same player, holds the same worlds and fleets
where the command touches them, and the same orders of the acting fleet. -/
structure AgreesOn (s : Snapshot) (c : Command) (t : Snapshot) : Prop where
  player : s.player = t.player
  fleets : ∀ id, c.TouchesFleet id → s.fleet? id = t.fleet? id
  worlds : ∀ id, s.TouchesWorld c id → s.world? id = t.world? id
  orders : ∀ id, c.actingFleet? = some id → s.ordersFor id = t.ordersFor id

end Snapshot

/-! ## Findings without their hints -/

namespace Findings

/-- The objections and cautions alone. -/
def unhinted (found : Findings) : Findings :=
  { found with hints := [] }

@[simp] theorem unhinted_ofHint (h : Hint) : (ofHint h).unhinted = .none := rfl

@[simp] theorem unhinted_append (a b : Findings) :
    (a ++ b).unhinted = a.unhinted ++ b.unhinted := rfl

theorem unhinted_given_hint (condition : Bool) (h : Hint) :
    (given condition (ofHint h)).unhinted = .none := by
  cases condition <;> rfl

/-- A fault has no hints. -/
theorem unhinted_ofExcept (judgement : Except Fault Findings) :
    (ofExcept judgement).unhinted = ofExcept (judgement.map unhinted) := by
  cases judgement <;> rfl

end Findings

namespace Snapshot

open Findings (unhinted)

variable {s t : Snapshot}

/-! ## Rules and judgements of two snapshots -/

section Player

variable (hplayer : s.player = t.player)
include hplayer

theorem isMine_congr (owner : Option String) : s.isMine owner = t.isMine owner := by
  rw [isMine, isMine, hplayer]

theorem ownFleet_congr {id : FleetId} (hfleet : s.fleet? id = t.fleet? id) :
    s.ownFleet id = t.ownFleet id := by
  simp only [ownFleet, hfleet, isMine_congr hplayer]

theorem ownWorld_congr {id : WorldId} (hworld : s.world? id = t.world? id) :
    s.ownWorld id = t.ownWorld id := by
  simp only [ownWorld, hworld, isMine_congr hplayer]

theorem unhinted_withOwnFleet {fleet : FleetId} {check other : Fleet → Except Fault Findings}
    (hfleet : s.fleet? fleet = t.fleet? fleet)
    (hcheck : ∀ f, t.fleet? fleet = some f → (check f).map unhinted = (other f).map unhinted) :
    (s.withOwnFleet fleet check).map unhinted = (t.withOwnFleet fleet other).map unhinted := by
  rw [withOwnFleet, withOwnFleet, ownFleet_congr hplayer hfleet]
  cases hown : t.ownFleet fleet with
  | ok f => exact hcheck f (ownFleet_eq_ok_iff.mp hown).1
  | error e => rfl

end Player

theorem replacement_congr {fleet : FleetId} (h : s.ordersFor fleet = t.ordersFor fleet) :
    s.replacement fleet = t.replacement fleet := by
  rw [replacement, replacement, exclusiveOrder?, exclusiveOrder?, h]

/-- A walk looks at its start and at the worlds on its path. -/
theorem checkPath_congr {start : WorldId} {path : List WorldId}
    (h : ∀ w ∈ start :: path, s.world? w = t.world? w) :
    s.checkPath start path = t.checkPath start path := by
  induction path generalizing start with
  | nil => rfl
  | cons next rest ih =>
    rw [checkPath, checkPath, h start List.mem_cons_self,
      ih fun w hw => h w (List.mem_cons_of_mem start hw)]

/-- The first bad hop of a path leaves the start or a world on the path. -/
theorem mem_of_firstBadHop {start source goal : WorldId} {path : List WorldId}
    (h : FirstBadHop s start path source goal) : source ∈ start :: path := by
  obtain ⟨before, after, rfl, -, hlast, -⟩ := h
  have hmem : source ∈ start :: before := List.mem_of_getLast? hlast
  exact List.mem_append_left (goal :: after) hmem

/-- Even the hint about a path is taken from a world on it. -/
theorem pathFindings_congr {start : WorldId} {path : List WorldId}
    (h : ∀ w ∈ start :: path, s.world? w = t.world? w) :
    s.pathFindings start path = t.pathFindings start path := by
  rw [pathFindings, pathFindings, checkPath_congr h]
  cases hcheck : t.checkPath start path with
  | error fault => rfl
  | ok result =>
    cases result with
    | connected => rfl
    | broken source goal =>
      have hsource := mem_of_firstBadHop (firstBadHop_of_broken hcheck).1
      simp only [h source hsource]

theorem unhinted_reinforcementFindings {world : WorldId} {receiver : FleetId}
    (hown : s.ownFleet receiver = t.ownFleet receiver) :
    (s.reinforcementFindings world receiver).unhinted =
      (t.reinforcementFindings world receiver).unhinted := by
  rw [reinforcementFindings, reinforcementFindings, hown]
  cases t.ownFleet receiver with
  | error e => rfl
  | ok f =>
    by_cases hhere : f.station = some world
    · simp [hhere]
    · simp [hhere, Findings.unhinted_given_hint]

section Agreement

variable {c : Command} {fleet : FleetId}

theorem AgreesOn.actor (h : s.AgreesOn c t) (hactor : c.actingFleet? = some fleet) :
    s.fleet? fleet = t.fleet? fleet :=
  h.fleets fleet (.inl hactor)

theorem AgreesOn.target (h : s.AgreesOn c t) (htarget : c.targetFleet? = some fleet) :
    s.fleet? fleet = t.fleet? fleet :=
  h.fleets fleet (.inr htarget)

theorem AgreesOn.replacement (h : s.AgreesOn c t) (hactor : c.actingFleet? = some fleet) :
    s.replacement fleet = t.replacement fleet :=
  replacement_congr (h.orders fleet hactor)

theorem AgreesOn.ground (h : s.AgreesOn c t) (hactor : c.actingFleet? = some fleet) {f : Fleet}
    (hf : t.fleet? fleet = some f) {here : WorldId} (hhere : f.station = some here) :
    s.world? here = t.world? here := by
  refine h.worlds here (.inr (.inr ?_))
  rw [ground?, hactor, Option.bind_some, h.actor hactor, hf, Option.bind_some, hhere]

theorem unhinted_moveFindings {path : List WorldId} (h : s.AgreesOn (.move fleet path) t) :
    (s.moveFindings fleet path).map unhinted = (t.moveFindings fleet path).map unhinted := by
  refine unhinted_withOwnFleet h.player (h.actor rfl) fun f hf => ?_
  cases hstation : f.station with
  | none => simp only [h.replacement rfl]
  | some start =>
    have hpath : ∀ w ∈ start :: path, s.world? w = t.world? w := by
      intro w hw
      rcases List.mem_cons.mp hw with rfl | hw
      · exact h.ground rfl hf hstation
      · exact h.worlds w (.inr (.inl hw))
    simp only [h.replacement rfl, pathFindings_congr hpath]

theorem garrisonFindings_congr {f : Fleet} (hplayer : s.player = t.player)
    (hground : ∀ here, f.station = some here → s.world? here = t.world? here) :
    s.garrisonFindings fleet f = t.garrisonFindings fleet f := by
  rw [garrisonFindings, garrisonFindings]
  cases hstation : f.station with
  | none => rfl
  | some here => simp only [hground here hstation, isMine_congr hplayer]

theorem unhinted_transferFindings {amount : UInt32} {goal : Destination}
    (h : s.AgreesOn (.transfer fleet amount goal) t) :
    (s.transferFindings fleet amount goal).map unhinted =
      (t.transferFindings fleet amount goal).map unhinted := by
  refine unhinted_withOwnFleet h.player (h.actor rfl) fun f hf => ?_
  cases goal with
  | industry | population =>
    simp only [garrisonFindings_congr h.player fun here => h.ground rfl hf]
  | fleet other =>
    simp only [handoverFindings, h.target (c := .transfer fleet amount (.fleet other)) rfl]

theorem unhinted_fireAtWorldFindings {target : Resource}
    (h : s.AgreesOn (.fireAtWorld fleet target) t) :
    (s.fireAtWorldFindings fleet target).map unhinted =
      (t.fireAtWorldFindings fleet target).map unhinted := by
  refine unhinted_withOwnFleet h.player (h.actor rfl) fun f hf => ?_
  cases hstation : f.station with
  | none => simp only [h.replacement rfl]
  | some here =>
    simp only [h.replacement rfl, h.ground rfl hf hstation, isMine_congr h.player]

theorem unhinted_fireAtFleetFindings {target : FleetId}
    (h : s.AgreesOn (.fireAtFleet fleet target) t) :
    (s.fireAtFleetFindings fleet target).map unhinted =
      (t.fireAtFleetFindings fleet target).map unhinted := by
  have htarget : s.fleet? target = t.fleet? target := h.target rfl
  refine unhinted_withOwnFleet h.player (h.actor rfl) fun f _ => ?_
  simp only [h.replacement rfl, htarget, isMine_congr h.player]

theorem unhinted_ambushFindings (h : s.AgreesOn (.ambush fleet) t) :
    (s.ambushFindings fleet).map unhinted = (t.ambushFindings fleet).map unhinted := by
  refine unhinted_withOwnFleet h.player (h.actor rfl) fun f _ => ?_
  simp only [h.replacement rfl]

theorem unhinted_buildFindings {world : WorldId} {amount : UInt32} {goal : Destination}
    (h : s.AgreesOn (.build world amount goal) t) :
    (s.buildFindings world amount goal).unhinted =
      (t.buildFindings world amount goal).unhinted := by
  unfold buildFindings
  rw [ownWorld_congr h.player (h.worlds world (.inl rfl))]
  cases t.ownWorld world with
  | error e => rfl
  | ok w =>
    cases goal with
    | industry | population => rfl
    | fleet receiver =>
      have hown : s.ownFleet receiver = t.ownFleet receiver :=
        ownFleet_congr h.player (h.target rfl)
      simp only [Findings.unhinted_append, unhinted_reinforcementFindings hown]

/-- Two snapshots that are alike where a command touches them judge it alike,
up to hints. -/
theorem unhinted_findings {mode : Mode} (h : s.AgreesOn c t) :
    (s.findings mode c).map unhinted = (t.findings mode c).map unhinted := by
  cases c with
  | move fleet path => exact unhinted_moveFindings h
  | build world amount goal => exact congrArg Except.ok (unhinted_buildFindings h)
  | transfer fleet amount goal => exact unhinted_transferFindings h
  | fireAtWorld fleet target => exact unhinted_fireAtWorldFindings h
  | fireAtFleet fleet target => exact unhinted_fireAtFleetFindings h
  | ambush fleet => exact unhinted_ambushFindings h
  | _ => cases mode <;> rfl

theorem assess_of_agreesOn (h : s.AgreesOn c t) (mode : Mode) :
    (assess s mode (some c)).errors = (assess t mode (some c)).errors ∧
      (assess s mode (some c)).warnings = (assess t mode (some c)).warnings := by
  have hsame : (Findings.ofExcept (s.findings mode c)).unhinted =
      (Findings.ofExcept (t.findings mode c)).unhinted := by
    rw [Findings.unhinted_ofExcept, unhinted_findings h, ← Findings.unhinted_ofExcept]
  constructor
  · exact congrArg (fun found => found.verdict.errors) hsame
  · exact congrArg (fun found => found.verdict.warnings) hsame

/-- Legality is what verdicts at submission say, so it is the same as well. -/
theorem legal_iff_of_agreesOn (h : s.AgreesOn c t) : s.Legal c ↔ t.Legal c := by
  rw [← isValid_assess_submission_iff, ← isValid_assess_submission_iff, Verdict.isValid,
    Verdict.isValid, (assess_of_agreesOn h .submission).1]

end Agreement

end Snapshot

/-! ## Changes elsewhere -/

namespace Roster

variable {α : Type}

/-- The roster without what is filed under the number. -/
def erase (r : Roster α) (n : UInt32) : Roster α :=
  ⟨r.entries.filter fun e => e.1 != n, r.ascending.filter _⟩

theorem get?_insert_of_ne (r : Roster α) {n m : UInt32} (x : α) (h : n ≠ m) :
    (r.insert n x).get? m = r.get? m := by
  rw [get?_insert, if_neg h]

theorem get?_erase_of_ne (r : Roster α) {n m : UInt32} (h : n ≠ m) :
    (r.erase n).get? m = r.get? m := by
  have hkeep : ∀ e : UInt32 × α, (e.1 == m) = true → (e.1 != n) = true := by
    intro e he
    rw [eq_of_beq he]
    exact bne_iff_ne.mpr h.symm
  rw [get?, get?, erase, List.find?_filter]
  congr 2
  funext e
  cases hm : e.1 == m with
  | true => simp [hkeep e hm]
  | false => simp

end Roster

/-- A change of a snapshot in one place. -/
inductive Change where
  /-- A fleet is entered, in the place of one of its number. -/
  | putFleet (f : Fleet)
  /-- A world is entered, in the place of one of its number. -/
  | putWorld (w : World)
  | dropFleet (id : FleetId)
  | dropWorld (id : WorldId)
  /-- An order goes to the end of the queue. -/
  | order (o : QueuedOrder)

namespace Snapshot

variable {s t : Snapshot} {c : Command}

/-- The snapshot after a change. -/
def change (s : Snapshot) : Change → Snapshot
  | .putFleet f => s.addFleet f
  | .putWorld w => s.addWorld w
  | .dropFleet id => { s with fleets := s.fleets.erase id.number }
  | .dropWorld id => { s with worlds := s.worlds.erase id.number }
  | .order o => s.queue o

/-- The change is not where the command touches the snapshot. -/
def Spares (s : Snapshot) (c : Command) : Change → Prop
  | .putFleet f => ¬ c.TouchesFleet f.id
  | .putWorld w => ¬ s.TouchesWorld c w.id
  | .dropFleet id => ¬ c.TouchesFleet id
  | .dropWorld id => ¬ s.TouchesWorld c id
  | .order o => c.actingFleet? ≠ some o.fleet

instance (s : Snapshot) (c : Command) (x : Change) : Decidable (s.Spares c x) :=
  match x with
  | .putFleet f => inferInstanceAs (Decidable (¬ c.TouchesFleet f.id))
  | .putWorld w => inferInstanceAs (Decidable (¬ s.TouchesWorld c w.id))
  | .dropFleet id => inferInstanceAs (Decidable (¬ c.TouchesFleet id))
  | .dropWorld id => inferInstanceAs (Decidable (¬ s.TouchesWorld c id))
  | .order o => inferInstanceAs (Decidable (c.actingFleet? ≠ some o.fleet))

theorem AgreesOn.refl (s : Snapshot) (c : Command) : s.AgreesOn c s :=
  ⟨rfl, fun _ _ => rfl, fun _ _ => rfl, fun _ _ => rfl⟩

/-- Alike snapshots are touched in the same places. -/
theorem AgreesOn.touchesWorld_iff (h : s.AgreesOn c t) (id : WorldId) :
    s.TouchesWorld c id ↔ t.TouchesWorld c id := by
  have hground : s.ground? c = t.ground? c := by
    cases hactor : c.actingFleet? with
    | none => simp [ground?, hactor]
    | some fleet => simp [ground?, hactor, h.actor hactor]
  rw [TouchesWorld, TouchesWorld, hground]

theorem AgreesOn.trans {u : Snapshot} (hst : s.AgreesOn c t) (htu : t.AgreesOn c u) :
    s.AgreesOn c u where
  player := hst.player.trans htu.player
  fleets id hid := (hst.fleets id hid).trans (htu.fleets id hid)
  worlds id hid := (hst.worlds id hid).trans (htu.worlds id ((hst.touchesWorld_iff id).mp hid))
  orders id hid := (hst.orders id hid).trans (htu.orders id hid)

theorem AgreesOn.spares_iff (h : s.AgreesOn c t) (x : Change) : s.Spares c x ↔ t.Spares c x := by
  cases x with
  | putFleet | dropFleet | order => exact Iff.rfl
  | putWorld w => exact not_congr (h.touchesWorld_iff w.id)
  | dropWorld id => exact not_congr (h.touchesWorld_iff id)

/-- One change elsewhere. -/
theorem agreesOn_change {x : Change} (h : s.Spares c x) : s.AgreesOn c (s.change x) := by
  have hfleets : ∀ n : FleetId, ¬ c.TouchesFleet n → ∀ id, c.TouchesFleet id →
      n.number ≠ id.number := by
    intro n hn id hid hsame
    exact hn (FleetId.eq_of_number hsame ▸ hid)
  have hworlds : ∀ n : WorldId, ¬ s.TouchesWorld c n → ∀ id, s.TouchesWorld c id →
      n.number ≠ id.number := by
    intro n hn id hid hsame
    exact hn (WorldId.eq_of_number hsame ▸ hid)
  cases x with
  | putFleet f =>
    exact ⟨rfl, fun id hid => (Roster.get?_insert_of_ne _ f (hfleets f.id h id hid)).symm,
      fun _ _ => rfl, fun _ _ => rfl⟩
  | putWorld w =>
    exact ⟨rfl, fun _ _ => rfl,
      fun id hid => (Roster.get?_insert_of_ne _ w (hworlds w.id h id hid)).symm, fun _ _ => rfl⟩
  | dropFleet n =>
    exact ⟨rfl, fun id hid => (Roster.get?_erase_of_ne _ (hfleets n h id hid)).symm,
      fun _ _ => rfl, fun _ _ => rfl⟩
  | dropWorld n =>
    exact ⟨rfl, fun _ _ => rfl,
      fun id hid => (Roster.get?_erase_of_ne _ (hworlds n h id hid)).symm, fun _ _ => rfl⟩
  | order o =>
    refine ⟨rfl, fun _ _ => rfl, fun _ _ => rfl, fun id hid => ?_⟩
    have hother : o.fleet ≠ id := fun hsame => h (hsame ▸ hid)
    simp [change, queue, ordersFor, hother]

/-- Any number of changes elsewhere, one after the other. -/
theorem agreesOn_foldl {changes : List Change} (h : ∀ x ∈ changes, s.Spares c x) :
    s.AgreesOn c (changes.foldl change s) := by
  induction changes generalizing s with
  | nil => exact .refl s c
  | cons x rest ih =>
    have hfirst := agreesOn_change (h x List.mem_cons_self)
    refine hfirst.trans (ih fun y hy => ?_)
    exact (hfirst.spares_iff y).mp (h y (List.mem_cons_of_mem x hy))

end Snapshot

/-- The errors and the warnings about a command are the same, in the same
order, for any two snapshots that are alike where the command touches them. So
no run of changes elsewhere, of worlds and fleets that are entered, replaced
and taken out and of orders that are queued for other fleets, makes a
difference to them, or to whether the command is legal. -/
theorem judged_by_what_is_touched (s : Snapshot) (c : Command) :
    (∀ t, s.AgreesOn c t → ∀ mode,
      (assess s mode (some c)).errors = (assess t mode (some c)).errors ∧
        (assess s mode (some c)).warnings = (assess t mode (some c)).warnings) ∧
    (∀ changes : List Change, (∀ x ∈ changes, s.Spares c x) →
      (s.Legal c ↔ (changes.foldl Snapshot.change s).Legal c) ∧ ∀ mode,
        (assess s mode (some c)).errors =
            (assess (changes.foldl Snapshot.change s) mode (some c)).errors ∧
          (assess s mode (some c)).warnings =
            (assess (changes.foldl Snapshot.change s) mode (some c)).warnings) := by
  refine ⟨fun t h => Snapshot.assess_of_agreesOn h, fun changes hspares => ?_⟩
  have hagrees := Snapshot.agreesOn_foldl hspares
  exact ⟨Snapshot.legal_iff_of_agreesOn hagrees, Snapshot.assess_of_agreesOn hagrees⟩

/-- Changes of the demonstration map that have to do with neither fleet 8 nor
world 3. -/
def demoChanges : List Change :=
  [.dropFleet ⟨9⟩, .putWorld ⟨⟨1⟩, some "Vex", 0, 0, []⟩, .order ⟨⟨1⟩, .move⟩,
    .putFleet ⟨⟨7⟩, some "Commander", some ⟨1⟩, 5, 0⟩, .dropWorld ⟨5⟩]

/-- They make no difference to what is wrong with a move of fleet 8, which
stays as illegal as it was, and they do make one to the hint. -/
theorem judged_by_what_is_touched_demo :
    (assess (demoChanges.foldl Snapshot.change .demo) .live (some (.move ⟨8⟩ [⟨3⟩]))).errors =
      ["Fleet 8 does not exist"] ∧
    ¬ (demoChanges.foldl Snapshot.change .demo).Legal (.move ⟨8⟩ [⟨3⟩]) ∧
    (assess .demo .live (some (.move ⟨8⟩ [⟨3⟩]))).suggestions = ["Your fleets: F1, F2, F3, F4"] ∧
    (assess (demoChanges.foldl Snapshot.change .demo) .live
      (some (.move ⟨8⟩ [⟨3⟩]))).suggestions = ["Your fleets: F1, F2, F3, F4, F7"] := by
  have hspares : ∀ x ∈ demoChanges, Snapshot.demo.Spares (.move ⟨8⟩ [⟨3⟩]) x := by
    decide +kernel
  obtain ⟨hagree, hchanged⟩ := judged_by_what_is_touched .demo (.move ⟨8⟩ [⟨3⟩])
  have hsame := hagree _ (Snapshot.agreesOn_foldl hspares) .live
  have herrors : (assess .demo .live (some (.move ⟨8⟩ [⟨3⟩]))).errors =
      ["Fleet 8 does not exist"] := by
    decide +kernel
  have hillegal : ¬ Snapshot.demo.Legal (.move ⟨8⟩ [⟨3⟩]) := by
    rintro ⟨f, ⟨hfound, -⟩, -⟩
    have hmissing : Snapshot.demo.fleet? ⟨8⟩ = none := by decide +kernel
    rw [hmissing] at hfound
    cases hfound
  exact ⟨hsame.1.symm.trans herrors, fun h => hillegal ((hchanged _ hspares).1.mpr h),
    by decide +kernel, by decide +kernel⟩

end FleetOrders
