/-
FleetOrders.Proofs.Legality — the assessment decides the rules of the game.

* `Snapshot.Legal` — the rules: which commands the player of a snapshot may
  give. It speaks of the snapshot only, and not of findings or of the order
  in which checks are made.
* `Clean` — a judgement without fault and without objection. Every judgement
  of `Verdict.Assessment` has a lemma that says when it is clean.
* `isValid_assess_iff_legal` — at submission the valid commands are the
  legal ones; live feedback lets the beginnings of orders pass as well.

A snapshot may name worlds that it does not hold. An order that needs such
a world is not legal, and its fault makes it invalid.
-/
import FleetOrders.Verdict.Assessment
import Mathlib.Data.List.Chain

namespace FleetOrders

/-! ## The rules of the game -/

/-- Both fleets are stationed, at the same world. -/
def Fleet.Meets (f g : Fleet) : Prop :=
  ∃ w, f.station = some w ∧ g.station = some w

namespace Snapshot

variable (s : Snapshot)

/-- The fleet of that number, and the player owns it. -/
def OwnFleet (id : FleetId) (f : Fleet) : Prop :=
  s.fleet? id = some f ∧ f.owner = some s.player

/-- The world of that number, and the player owns it. -/
def OwnWorld (id : WorldId) (w : World) : Prop :=
  s.world? id = some w ∧ w.owner = some s.player

/-- From one world to the next: the first is in the snapshot and lists the
second among its connections. -/
def Hop (source goal : WorldId) : Prop :=
  ∃ w, s.world? source = some w ∧ goal ∈ w.connections

/-- A walk that leaves `start` and goes along the path. -/
def Walk (start : WorldId) (path : List WorldId) : Prop :=
  List.IsChain s.Hop (start :: path)

/-- Ships of the fleet may go there. -/
def TakesShips (fleet : FleetId) (f : Fleet) : Destination → Prop
  | .industry | .population => ∃ here w, f.station = some here ∧ s.OwnWorld here w
  | .fleet other => other ≠ fleet ∧ ∃ g, s.fleet? other = some g ∧ f.Meets g

/-- Ships built at the world may go there. -/
def TakesBuilt (world : WorldId) : Destination → Prop
  | .industry | .population => True
  | .fleet receiver => ∃ g, s.OwnFleet receiver g ∧ g.station = some world

/-- The player may give the command. -/
def Legal : Command → Prop
  | .move fleet path =>
    ∃ f, s.OwnFleet fleet f ∧ 0 < f.ships ∧ ∃ start, f.station = some start ∧ s.Walk start path
  | .build world amount goal =>
    ∃ w, s.OwnWorld world w ∧ (1 ≤ amount ∧ amount ≤ w.industry) ∧ s.TakesBuilt world goal
  | .transfer fleet amount goal =>
    ∃ f, s.OwnFleet fleet f ∧ (1 ≤ amount ∧ amount ≤ f.ships) ∧ s.TakesShips fleet f goal
  | .fireAtWorld fleet _ =>
    ∃ f, s.OwnFleet fleet f ∧ 0 < f.ships ∧
      ∃ here w, f.station = some here ∧ s.world? here = some w
  | .fireAtFleet fleet target =>
    ∃ f, s.OwnFleet fleet f ∧ 0 < f.ships ∧ target ≠ fleet ∧
      ∃ g, s.fleet? target = some g ∧ f.Meets g
  | .ambush fleet => ∃ f, s.OwnFleet fleet f ∧ ∃ here, f.station = some here
  | .join text => Text.trimmed text ≠ ""
  | .turn => True
  | .partialFleet _ | .partialWorld _ | .partialTransfer _ _ | .partialBuild _ _
  | .partialJoin => False

end Snapshot

/-! ## Judgements that find nothing wrong -/

/-- No fault and no objection; there may be cautions and hints. -/
def Clean (judgement : Except Fault Findings) : Prop :=
  ∃ found, judgement = .ok found ∧ found.objections = []

@[simp] theorem clean_ok_iff {found : Findings} :
    Clean (.ok found) ↔ found.objections = [] := by
  simp [Clean]

@[simp] theorem not_clean_error (fault : Fault) : ¬ Clean (.error fault) := by
  simp [Clean]

@[simp] theorem clean_map_append_iff {before : Findings} {judgement : Except Fault Findings} :
    Clean (judgement.map (before ++ ·)) ↔ before.objections = [] ∧ Clean judgement := by
  cases judgement with
  | ok found => simp [Except.map]
  | error fault => simp [Except.map]

namespace Findings

@[simp] theorem objections_none : Findings.none.objections = [] := rfl

@[simp] theorem objections_ofObjection (o : Objection) : (ofObjection o).objections = [o] := rfl

@[simp] theorem objections_ofCaution (c : Caution) : (ofCaution c).objections = [] := rfl

@[simp] theorem objections_ofHint (h : Hint) : (ofHint h).objections = [] := rfl

@[simp] theorem objections_given (condition : Bool) (f : Findings) :
    (given condition f).objections = if condition then f.objections else [] := by
  cases condition <;> rfl

end Findings

theorem isValid_assess_iff_clean {s : Snapshot} {mode : Mode} {c : Command} :
    (assess s mode (some c)).isValid = true ↔ Clean (s.findings mode c) := by
  rw [assess]
  cases s.findings mode c with
  | ok found => simp [Findings.ofExcept, Findings.verdict, Verdict.isValid]
  | error fault => simp [Findings.ofExcept, Findings.verdict, Verdict.isValid]

/-! ## The single rules -/

theorem checkAmount_eq_ok_iff {amount available : UInt32} :
    checkAmount amount available = .ok () ↔ 1 ≤ amount ∧ amount ≤ available := by
  have hpos : 1 ≤ amount ↔ amount ≠ 0 := by
    rw [UInt32.le_iff_toNat_le, Ne, ← UInt32.toNat_inj]
    exact Nat.one_le_iff_ne_zero
  rw [hpos, ← UInt32.not_lt]
  unfold checkAmount
  split
  · rename_i hzero
    simp only [reduceCtorEq, false_iff, not_and]
    exact fun h => absurd hzero h
  · split
    · rename_i hless
      simp only [reduceCtorEq, false_iff, not_and, not_not]
      exact fun _ => hless
    · rename_i hzero hless
      exact ⟨fun _ => ⟨hzero, hless⟩, fun _ => rfl⟩

theorem Fleet.areTogether_iff {f g : Fleet} : f.areTogether g = true ↔ f.Meets g := by
  unfold areTogether Meets
  cases f.station with
  | none => simp
  | some w =>
    simp only [Option.isSome_some, Bool.true_and, beq_iff_eq, Option.some.injEq]
    constructor
    · intro h
      exact ⟨w, rfl, h.symm⟩
    · rintro ⟨_, rfl, h⟩
      exact h.symm

namespace Snapshot

variable {s : Snapshot}

@[simp] theorem isMine_iff {owner : Option String} :
    s.isMine owner = true ↔ owner = some s.player := by
  simp [isMine]

theorem ok_if_isMine_iff {α ε : Type} {owner : Option String} {x y : α} {e : ε} :
    (if s.isMine owner then .ok x else .error e : Except ε α) = .ok y ↔
      x = y ∧ owner = some s.player := by
  by_cases hmine : owner = some s.player
  · simp [hmine]
  · simp [hmine]

theorem ownFleet_eq_ok_iff {id : FleetId} {f : Fleet} :
    s.ownFleet id = .ok f ↔ s.OwnFleet id f := by
  unfold ownFleet OwnFleet
  cases s.fleet? id with
  | none => simp
  | some g =>
    rw [ok_if_isMine_iff, Option.some.injEq]
    exact and_congr_right fun h => by rw [h]

theorem ownWorld_eq_ok_iff {id : WorldId} {w : World} :
    s.ownWorld id = .ok w ↔ s.OwnWorld id w := by
  unfold ownWorld OwnWorld
  cases s.world? id with
  | none => simp
  | some v =>
    rw [ok_if_isMine_iff, Option.some.injEq]
    exact and_congr_right fun h => by rw [h]

/-- Checking a path finds it connected when it is a walk: the check goes
along it hop by hop and stops at the first that fails. -/
theorem checkPath_eq_connected_iff {start : WorldId} {path : List WorldId} :
    s.checkPath start path = .ok .connected ↔ s.Walk start path := by
  unfold Walk
  induction path generalizing start with
  | nil => simp [checkPath]
  | cons goal rest ih =>
    rw [List.isChain_cons_cons, ← ih, checkPath, Hop]
    cases hw : s.world? start with
    | none => simp
    | some w =>
      by_cases hleads : goal ∈ w.connections
      · simp [World.leadsTo, hleads]
      · simp [World.leadsTo, hleads]

/-! ## The shared findings -/

theorem clean_withOwnFleet_iff {fleet : FleetId} {check : Fleet → Except Fault Findings} :
    Clean (s.withOwnFleet fleet check) ↔ ∃ f, s.OwnFleet fleet f ∧ Clean (check f) := by
  unfold withOwnFleet
  simp only [← ownFleet_eq_ok_iff]
  cases s.ownFleet fleet with
  | ok f => simp
  | error e => simp

@[simp] theorem objections_needsShips {f : Fleet} :
    (needsShips f).objections = [] ↔ 0 < f.ships := by
  simp [needsShips, UInt32.pos_iff_ne_zero]

@[simp] theorem objections_replacement {fleet : FleetId} :
    (s.replacement fleet).objections = [] := by
  unfold replacement
  split <;> rfl

@[simp] theorem objections_needsTogether {actor other : Fleet} :
    (needsTogether actor other).objections = [] ↔ actor.Meets other := by
  simp [needsTogether, ← Fleet.areTogether_iff]

@[simp] theorem objections_needsAmount {supply : Supply} {amount available : UInt32} :
    (needsAmount supply amount available).objections = [] ↔ 1 ≤ amount ∧ amount ≤ available := by
  rw [← checkAmount_eq_ok_iff]
  unfold needsAmount
  split
  · rename_i h
    simp [h]
  · rename_i h
    simp [h]
  · rename_i h
    simp [h]

/-! ## Orders to a fleet -/

theorem clean_pathFindings_iff {start : WorldId} {path : List WorldId} :
    Clean (s.pathFindings start path) ↔ s.Walk start path := by
  rw [← checkPath_eq_connected_iff]
  unfold pathFindings
  split
  · rename_i h
    simp [h]
  · rename_i h
    simp [h]
  · -- not connected: an objection, or a fault if the source is not in the snapshot
    rename_i h
    split
    · simp [h]
    · simp [h]

theorem clean_moveFindings_iff {fleet : FleetId} {path : List WorldId} :
    Clean (s.moveFindings fleet path) ↔ s.Legal (.move fleet path) := by
  rw [moveFindings, clean_withOwnFleet_iff]
  refine exists_congr fun f => and_congr_right fun _ => ?_
  cases f.station with
  | none => simp
  | some start => simp [clean_pathFindings_iff]

theorem clean_garrisonFindings_iff {fleet : FleetId} {f : Fleet} :
    Clean (s.garrisonFindings fleet f) ↔
      ∃ here w, f.station = some here ∧ s.OwnWorld here w := by
  unfold garrisonFindings OwnWorld
  cases f.station with
  | none => simp
  | some here =>
    cases hw : s.world? here with
    | none => simp [hw]
    | some w => simp [hw]

theorem objections_handoverFindings {fleet other : FleetId} {f : Fleet} :
    (s.handoverFindings fleet f other).objections = [] ↔ s.TakesShips fleet f (.fleet other) := by
  unfold handoverFindings TakesShips
  split
  · rename_i h
    simp [h]
  · rename_i hne
    cases hg : s.fleet? other with
    | none => simp [hg]
    | some g => simp [hg, hne]

theorem clean_transferFindings_iff {fleet : FleetId} {amount : UInt32} {goal : Destination} :
    Clean (s.transferFindings fleet amount goal) ↔ s.Legal (.transfer fleet amount goal) := by
  rw [transferFindings, clean_withOwnFleet_iff]
  refine exists_congr fun f => and_congr_right fun _ => ?_
  cases goal with
  | industry => simp [clean_garrisonFindings_iff, TakesShips]
  | population => simp [clean_garrisonFindings_iff, TakesShips]
  | fleet other => simp [objections_handoverFindings]

theorem clean_fireAtWorldFindings_iff {fleet : FleetId} {target : Resource} :
    Clean (s.fireAtWorldFindings fleet target) ↔ s.Legal (.fireAtWorld fleet target) := by
  rw [fireAtWorldFindings, clean_withOwnFleet_iff]
  refine exists_congr fun f => and_congr_right fun _ => ?_
  cases f.station with
  | none => simp
  | some here =>
    cases hw : s.world? here with
    | none => simp [hw]
    | some w => simp [hw]

theorem clean_fireAtFleetFindings_iff {fleet target : FleetId} :
    Clean (s.fireAtFleetFindings fleet target) ↔ s.Legal (.fireAtFleet fleet target) := by
  rw [fireAtFleetFindings, clean_withOwnFleet_iff]
  refine exists_congr fun f => and_congr_right fun _ => ?_
  by_cases hself : target = fleet
  · simp [hself]
  · cases hg : s.fleet? target with
    | none => simp [hself]
    | some g => simp [hself]

theorem clean_ambushFindings_iff {fleet : FleetId} :
    Clean (s.ambushFindings fleet) ↔ s.Legal (.ambush fleet) := by
  rw [ambushFindings, clean_withOwnFleet_iff]
  refine exists_congr fun f => and_congr_right fun _ => ?_
  cases hstation : f.station with
  | none => simp [Fleet.isStationed, hstation]
  | some here => simp [Fleet.isStationed, hstation]

/-! ## Orders to a world -/

theorem objections_reinforcementFindings {world : WorldId} {receiver : FleetId} :
    (s.reinforcementFindings world receiver).objections = [] ↔
      s.TakesBuilt world (.fleet receiver) := by
  unfold reinforcementFindings TakesBuilt
  simp only [← ownFleet_eq_ok_iff]
  cases s.ownFleet receiver with
  | error e => simp
  | ok g =>
    by_cases hhere : g.station = some world
    · simp [hhere]
    · simp [hhere]

theorem objections_buildFindings {world : WorldId} {amount : UInt32} {goal : Destination} :
    (s.buildFindings world amount goal).objections = [] ↔ s.Legal (.build world amount goal) := by
  unfold buildFindings
  simp only [Legal, ← ownWorld_eq_ok_iff]
  cases s.ownWorld world with
  | error e => simp
  | ok w =>
    cases goal with
    | industry => simp [TakesBuilt]
    | population => simp [TakesBuilt]
    | fleet receiver => simp [objections_reinforcementFindings]

/-! ## Any command -/

theorem objections_joinFindings {text : String} :
    (joinFindings text).objections = [] ↔ Text.trimmed text ≠ "" := by
  unfold joinFindings
  by_cases hempty : Text.trimmed text = ""
  · simp [hempty]
  · simp [hempty]

/-- Live feedback has nothing to say about the beginning of an order. -/
theorem findings_live_of_isPartial {c : Command} (h : c.isPartial = true) :
    s.findings .live c = .ok .none := by
  cases c with
  | partialFleet | partialWorld | partialTransfer | partialBuild | partialJoin => rfl
  | _ => cases h

/-- A complete command is judged in one way. -/
theorem findings_live_of_isComplete {c : Command} (h : c.isComplete = true) :
    s.findings .live c = s.findings .submission c := by
  cases c with
  | partialFleet | partialWorld | partialTransfer | partialBuild | partialJoin => cases h
  | _ => rfl

theorem clean_findings_submission_iff {c : Command} :
    Clean (s.findings .submission c) ↔ s.Legal c := by
  cases c with
  | move fleet path => exact clean_moveFindings_iff
  | build world amount goal => exact clean_ok_iff.trans objections_buildFindings
  | transfer fleet amount goal => exact clean_transferFindings_iff
  | fireAtWorld fleet target => exact clean_fireAtWorldFindings_iff
  | fireAtFleet fleet target => exact clean_fireAtFleetFindings_iff
  | ambush fleet => exact clean_ambushFindings_iff
  | join text => exact clean_ok_iff.trans objections_joinFindings
  | turn => simp [findings, Legal]
  | partialJoin =>
    refine clean_ok_iff.trans (objections_joinFindings.trans ?_)
    exact iff_of_false (fun h => h rfl) not_false
  | _ => simp [findings, unfinishedFindings, Legal]

/-- The beginning of an order is not legal yet. -/
theorem not_legal_of_isPartial {c : Command} (h : c.isPartial = true) : ¬ s.Legal c := by
  cases c with
  | partialFleet | partialWorld | partialTransfer | partialBuild | partialJoin => exact not_false
  | _ => cases h

end Snapshot

/-- A complete command has the same verdict while it is typed and when it
is sent. -/
theorem assess_live_of_isComplete {s : Snapshot} {c : Command} (h : c.isComplete = true) :
    assess s .live (some c) = assess s .submission (some c) := by
  rw [assess, assess, Snapshot.findings_live_of_isComplete h]

theorem isValid_assess_submission_iff {s : Snapshot} {c : Command} :
    (assess s .submission (some c)).isValid = true ↔ s.Legal c :=
  isValid_assess_iff_clean.trans Snapshot.clean_findings_submission_iff

/-- At submission a command is valid exactly when it is legal. Live
feedback takes the beginnings of orders as well. A line that gave no
command is never valid. -/
theorem isValid_assess_iff_legal (s : Snapshot) :
    (∀ c, (assess s .submission (some c)).isValid = true ↔ s.Legal c) ∧
    (∀ c, (assess s .live (some c)).isValid = true ↔ c.isPartial = true ∨ s.Legal c) ∧
    (∀ mode, (assess s mode none).isValid = false) := by
  refine ⟨fun c => isValid_assess_submission_iff, fun c => ?_, fun mode => rfl⟩
  cases hpartial : c.isPartial with
  | true =>
    rw [isValid_assess_iff_clean, Snapshot.findings_live_of_isPartial hpartial]
    simp
  | false =>
    have hcomplete : c.isComplete = true := by simp [Command.isComplete, hpartial]
    rw [assess_live_of_isComplete hcomplete, isValid_assess_submission_iff]
    simp

end FleetOrders
