/-
FleetOrders.Proofs.MissingWorlds — when a judgement runs into a world that
the snapshot does not hold, and what becomes of its verdict.

A snapshot may name worlds that it does not hold: a fleet can be stationed at
such a world, and a connection can lead to one. Three orders look such a world
up. A fault there takes the place of everything that was found before it.

* `Snapshot.RunsInto` — the fault that a command runs into, said by the map
  and the command alone.
* `Snapshot.findings_eq_error_iff` — a judgement fails with exactly that
  fault. Every judgement has a lemma that says when it fails.
* `Snapshot.Closed` — the snapshot holds every world that it names; then no
  walk leaves the map (`Snapshot.Closed.isSome_of_walk`).
* `Objection.exists_fault_of_folded` — no other objection is worded as a fault.
* `faults_stand_alone` — all of it, about verdicts.
-/
import FleetOrders.Proofs.Faithfulness
import FleetOrders.Proofs.PathDiagnosis

namespace FleetOrders

namespace Snapshot

variable {s : Snapshot} {fault : Fault}

/-! ## The fault that a command runs into -/

/-- The fleet is the player's and stationed, and the command needs a world
that is missing: a move, the world that its walk has come to and has to leave;
a transfer to a garrison and a shot at a world, the world under the fleet. -/
inductive RunsInto (s : Snapshot) : Command → Fault → Prop where
  | move {fleet : FleetId} {f : Fleet} {start source goal : WorldId} {path : List WorldId} :
      s.OwnFleet fleet f → f.station = some start → FirstBadHop s start path source goal →
      s.world? source = none → RunsInto s (.move fleet path) (.missingWorld source)
  | garrison {fleet : FleetId} {f : Fleet} {here : WorldId} {amount : UInt32}
      {goal : Destination} :
      s.OwnFleet fleet f → f.station = some here → goal = .industry ∨ goal = .population →
      s.world? here = none → RunsInto s (.transfer fleet amount goal) (.danglingWorld fleet here)
  | shot {fleet : FleetId} {f : Fleet} {here : WorldId} {target : Resource} :
      s.OwnFleet fleet f → f.station = some here → s.world? here = none →
      RunsInto s (.fireAtWorld fleet target) (.danglingWorld fleet here)

/-! ## Judgements that fail -/

@[simp] theorem map_append_eq_error_iff {before : Findings} {judgement : Except Fault Findings} :
    judgement.map (before ++ ·) = .error fault ↔ judgement = .error fault := by
  cases judgement <;> simp [Except.map]

theorem withOwnFleet_eq_error_iff {fleet : FleetId} {check : Fleet → Except Fault Findings} :
    s.withOwnFleet fleet check = .error fault ↔
      ∃ f, s.OwnFleet fleet f ∧ check f = .error fault := by
  unfold withOwnFleet
  simp only [← ownFleet_eq_ok_iff]
  cases s.ownFleet fleet <;> simp

/-- A path fails at its first bad hop, if the world that this hop leaves is
missing. -/
theorem pathFindings_eq_error_iff {start : WorldId} {path : List WorldId} :
    s.pathFindings start path = .error fault ↔ ∃ source goal,
      FirstBadHop s start path source goal ∧ s.world? source = none ∧
        fault = .missingWorld source := by
  constructor
  · intro h
    rcases s.walk_or_firstBadHop start path with hwalk | ⟨source, goal, hbad⟩
    · rw [pathFindings, checkPath_eq_connected_iff.mpr hwalk] at h
      cases h
    · refine ⟨source, goal, hbad, ?_⟩
      rw [pathFindings, checkPath_of_firstBadHop hbad] at h
      cases hworld : s.world? source with
      | none =>
        rw [hworld] at h
        exact ⟨rfl, (Except.error.inj h).symm⟩
      | some w => simp [hworld] at h
  · rintro ⟨source, goal, hbad, hmissing, rfl⟩
    rw [pathFindings, checkPath_of_firstBadHop hbad, hmissing]

theorem garrisonFindings_eq_error_iff {fleet : FleetId} {f : Fleet} :
    s.garrisonFindings fleet f = .error fault ↔ ∃ here,
      f.station = some here ∧ s.world? here = none ∧ fault = .danglingWorld fleet here := by
  unfold garrisonFindings
  cases f.station with
  | none => simp
  | some here => cases hworld : s.world? here <;> simp [hworld, eq_comm]

theorem moveFindings_eq_error_iff {fleet : FleetId} {path : List WorldId} :
    s.moveFindings fleet path = .error fault ↔ s.RunsInto (.move fleet path) fault := by
  rw [moveFindings, withOwnFleet_eq_error_iff]
  constructor
  · rintro ⟨f, hown, h⟩
    cases hstation : f.station with
    | none => simp [hstation] at h
    | some start =>
      simp only [hstation, map_append_eq_error_iff, pathFindings_eq_error_iff] at h
      obtain ⟨source, goal, hbad, hmissing, rfl⟩ := h
      exact .move hown hstation hbad hmissing
  · rintro (⟨hown, hstation, hbad, hmissing⟩ : RunsInto _ _ _)
    refine ⟨_, hown, ?_⟩
    simp only [hstation, map_append_eq_error_iff, pathFindings_eq_error_iff]
    exact ⟨_, _, hbad, hmissing, rfl⟩

theorem transferFindings_eq_error_iff {fleet : FleetId} {amount : UInt32} {goal : Destination} :
    s.transferFindings fleet amount goal = .error fault ↔
      s.RunsInto (.transfer fleet amount goal) fault := by
  rw [transferFindings, withOwnFleet_eq_error_iff]
  constructor
  · rintro ⟨f, hown, h⟩
    have hgarrison : (goal = .industry ∨ goal = .population) ∧
        s.garrisonFindings fleet f = .error fault := by
      cases goal with
      | industry | population => simpa using h
      | fleet other => simp at h
    obtain ⟨here, hstation, hmissing, rfl⟩ := garrisonFindings_eq_error_iff.mp hgarrison.2
    exact .garrison hown hstation hgarrison.1 hmissing
  · rintro (_ | ⟨hown, hstation, hgoal, hmissing⟩ | _)
    refine ⟨_, hown, ?_⟩
    have hgarrison : s.garrisonFindings fleet _ = _ :=
      garrisonFindings_eq_error_iff.mpr ⟨_, hstation, hmissing, rfl⟩
    rcases hgoal with rfl | rfl
    · exact map_append_eq_error_iff.mpr hgarrison
    · exact map_append_eq_error_iff.mpr hgarrison

theorem fireAtWorldFindings_eq_error_iff {fleet : FleetId} {target : Resource} :
    s.fireAtWorldFindings fleet target = .error fault ↔
      s.RunsInto (.fireAtWorld fleet target) fault := by
  rw [fireAtWorldFindings, withOwnFleet_eq_error_iff]
  constructor
  · rintro ⟨f, hown, h⟩
    cases hstation : f.station with
    | none => simp [hstation] at h
    | some here =>
      cases hworld : s.world? here with
      | some w => simp [hstation, hworld] at h
      | none =>
        simp only [hstation, hworld, Except.error.injEq] at h
        exact h ▸ .shot hown hstation hworld
  · rintro (_ | _ | ⟨hown, hstation, hmissing⟩)
    exact ⟨_, hown, by simp [hstation, hmissing]⟩

/-- The other orders to a fleet look up no world. -/
theorem fireAtFleetFindings_ne_error {fleet target : FleetId} :
    s.fireAtFleetFindings fleet target ≠ .error fault := by
  rw [fireAtFleetFindings, Ne, withOwnFleet_eq_error_iff]
  rintro ⟨f, -, h⟩
  by_cases hself : target = fleet
  · simp [hself] at h
  · cases hfound : s.fleet? target <;> simp [hself, hfound] at h

theorem ambushFindings_ne_error {fleet : FleetId} : s.ambushFindings fleet ≠ .error fault := by
  rw [ambushFindings, Ne, withOwnFleet_eq_error_iff]
  rintro ⟨f, -, h⟩
  cases h

/-- A judgement fails with the fault that the command runs into, and fails in
no other case. -/
theorem findings_eq_error_iff {mode : Mode} {c : Command} :
    s.findings mode c = .error fault ↔ s.RunsInto c fault := by
  have hnone : ∀ {judgement : Except Fault Findings}, judgement ≠ .error fault →
      (¬ s.RunsInto c fault) → (judgement = .error fault ↔ s.RunsInto c fault) :=
    fun hne hno => iff_of_false hne hno
  cases c with
  | move fleet path => exact moveFindings_eq_error_iff
  | transfer fleet amount goal => exact transferFindings_eq_error_iff
  | fireAtWorld fleet target => exact fireAtWorldFindings_eq_error_iff
  | fireAtFleet fleet target => exact hnone fireAtFleetFindings_ne_error nofun
  | ambush fleet => exact hnone ambushFindings_ne_error nofun
  | build | join | turn => exact hnone nofun nofun
  | partialFleet | partialWorld | partialTransfer | partialBuild | partialJoin =>
    cases mode <;> exact hnone nofun nofun

/-! ## Snapshots that hold every world they name -/

/-- Every world that a fleet is stationed at and every world that a connection
leads to is in the snapshot. -/
def Closed (s : Snapshot) : Prop :=
  (∀ f ∈ s.fleets.values, ∀ here ∈ f.station, (s.world? here).isSome = true) ∧
    ∀ w ∈ s.worlds.values, ∀ goal ∈ w.connections, (s.world? goal).isSome = true

instance (s : Snapshot) : Decidable s.Closed :=
  inferInstanceAs (Decidable (_ ∧ _))

namespace Closed

variable (h : s.Closed)
include h

theorem isSome_of_station {fleet : FleetId} {f : Fleet} {here : WorldId}
    (hown : s.OwnFleet fleet f) (hstation : f.station = some here) :
    (s.world? here).isSome = true :=
  h.1 f (Roster.mem_values_of_get? hown.1) here hstation

theorem isSome_of_hop {source goal : WorldId} (hhop : s.Hop source goal) :
    (s.world? goal).isSome = true := by
  obtain ⟨w, hw, hgoal⟩ := hhop
  exact h.2 w (Roster.mem_values_of_get? hw) goal hgoal

/-- A walk that starts at a world of the map ends at one: each hop leads to a
world that the snapshot holds. -/
theorem isSome_of_walk {start source : WorldId} {path : List WorldId}
    (hstart : (s.world? start).isSome = true) (hwalk : s.Walk start path)
    (hlast : (start :: path).getLast? = some source) : (s.world? source).isSome = true := by
  induction path generalizing start with
  | nil =>
    obtain rfl : start = source := Option.some.inj hlast
    exact hstart
  | cons next rest ih =>
    obtain ⟨hhop, hrest⟩ := List.isChain_cons_cons.mp hwalk
    rw [List.getLast?_cons_cons] at hlast
    exact ih (h.isSome_of_hop hhop) hrest hlast

theorem not_runsInto {c : Command} : ¬ s.RunsInto c fault := by
  rintro (⟨hown, hstation, ⟨before, after, -, hwalk, hlast, -⟩, hmissing⟩ |
    ⟨hown, hstation, -, hmissing⟩ | ⟨hown, hstation, hmissing⟩)
  · have hheld := h.isSome_of_walk (h.isSome_of_station hown hstation) hwalk hlast
    rw [hmissing] at hheld
    cases hheld
  · have hheld := h.isSome_of_station hown hstation
    rw [hmissing] at hheld
    cases hheld
  · have hheld := h.isSome_of_station hown hstation
    rw [hmissing] at hheld
    cases hheld

end Closed

end Snapshot

/-! ## The wording of a fault -/

/-- The error is worded as a fault of the snapshot. -/
def Folded (error : String) : Prop :=
  "Validation failed: ".toList <+: error.toList

theorem folded_fault (fault : Fault) : Folded (Objection.fault fault).message :=
  ⟨fault.message.toList, (String.toList_append ..).symm⟩

theorem Text.isPrefix_append {first a : String} (h : first.toList <+: a.toList) (b : String) :
    first.toList <+: (a ++ b).toList := by
  rw [String.toList_append]
  exact h.trans (List.prefix_append _ _)

/-- Of two texts that one text starts with, one starts with the other. -/
theorem Text.not_isPrefix_of_isPrefix {opening first text : String}
    (hopens : opening.toList <+: text.toList)
    (hapart : opening.toList.length ≤ first.toList.length ∧ ¬ opening.toList <+: first.toList) :
    ¬ first.toList <+: text.toList :=
  fun hfirst => hapart.2 (List.prefix_of_prefix_length_le hopens hfirst hapart.1)

/-- An error that is worded as a fault is one: every other objection starts with
another letter. -/
theorem Objection.exists_fault_of_folded {o : Objection} (h : Folded o.message) :
    ∃ fault, o = .fault fault := by
  have hopens : "V".toList <+: o.message.toList := List.IsPrefix.trans (by decide) h
  have hother : ∀ first : String, _ → ¬ first.toList <+: o.message.toList :=
    fun first => Text.not_isPrefix_of_isPrefix hopens
  have hwords : ∀ first rest : String, first.toList <+: (first ++ rest).toList :=
    fun first => Text.isPrefix_append List.prefix_rfl
  cases o with
  | nothingRead =>
    exact absurd List.prefix_rfl (hother "No valid command entered" (by decide))
  | incomplete command =>
    exact absurd (hwords _ _) (hother "Incomplete command: " (by decide))
  | ownership error =>
    obtain ⟨id | id⟩ | ⟨id | id, _ | owner⟩ := error
    · exact absurd (Text.isPrefix_append (hwords _ _) _) (hother "Fleet " (by decide))
    · exact absurd (Text.isPrefix_append (hwords _ _) _) (hother "World " (by decide))
    · exact absurd (Text.isPrefix_append (hwords _ _) _) (hother "Fleet " (by decide))
    · exact absurd (Text.isPrefix_append (Text.isPrefix_append
        (Text.isPrefix_append (hwords _ _) _) _) _) (hother "Fleet " (by decide))
    · exact absurd (Text.isPrefix_append (hwords _ _) _) (hother "World " (by decide))
    · exact absurd (Text.isPrefix_append (Text.isPrefix_append
        (Text.isPrefix_append (hwords _ _) _) _) _) (hother "World " (by decide))
  | noShips fleet | transferToSelf fleet | fireAtSelf fleet =>
    exact absurd (Text.isPrefix_append (hwords _ _) _) (hother "Fleet " (by decide))
  | inTransit fleet action =>
    exact absurd (Text.isPrefix_append (Text.isPrefix_append (hwords _ _) _) _)
      (hother "Fleet " (by decide))
  | notConnected source goal =>
    exact absurd (Text.isPrefix_append (Text.isPrefix_append (hwords _ _) _) _)
      (hother "World " (by decide))
  | amount supply error =>
    obtain _ | _ := supply <;> obtain _ | ⟨need, available⟩ := error
    · exact absurd List.prefix_rfl (hother "Transfer amount must be positive" (by decide))
    · exact absurd (hwords _ _) (hother "Insufficient ships: " (by decide))
    · exact absurd List.prefix_rfl (hother "Build amount must be positive" (by decide))
    · exact absurd (hwords _ _) (hother "Insufficient industry: " (by decide))
  | foreignGarrison world =>
    exact absurd (Text.isPrefix_append (hwords _ _) _)
      (hother "Cannot transfer to world " (by decide))
  | apart other actor =>
    exact absurd (Text.isPrefix_append (Text.isPrefix_append (hwords _ _) _) _)
      (hother "Fleet " (by decide))
  | notAtWorld fleet world =>
    exact absurd (Text.isPrefix_append (Text.isPrefix_append (hwords _ _) _) _)
      (hother "Fleet " (by decide))
  | joinWithoutText =>
    exact absurd List.prefix_rfl (hother "JOIN needs a character type" (by decide))
  | fault fault => exact ⟨fault, rfl⟩

/-! ## Verdicts -/

namespace Snapshot

variable {s : Snapshot} {mode : Mode} {c : Command}

/-- A fault is all that its verdict says: what had been found before it is
dropped. -/
theorem assess_of_error {fault : Fault} (h : s.findings mode c = .error fault) :
    assess s mode (some c) = ⟨["Validation failed: " ++ fault.message], [], []⟩ := by
  rw [assess, h]
  rfl

theorem folded_error_iff :
    (∃ error ∈ (assess s mode (some c)).errors, Folded error) ↔ ∃ fault, s.RunsInto c fault := by
  constructor
  · rintro ⟨error, hmem, hfolded⟩
    cases hjudged : s.findings mode c with
    | error fault => exact ⟨fault, findings_eq_error_iff.mp hjudged⟩
    | ok found =>
      rw [assess, hjudged] at hmem
      obtain ⟨o, ho, rfl⟩ := List.mem_map.mp hmem
      obtain ⟨fault, rfl⟩ := o.exists_fault_of_folded hfolded
      exact absurd rfl ((faithful_of_findings hjudged).objections _ ho fault)
  · rintro ⟨fault, hruns⟩
    rw [assess_of_error (findings_eq_error_iff.mpr hruns)]
    exact ⟨_, List.mem_singleton_self _, folded_fault fault⟩

end Snapshot

/-- While the snapshot holds every world that it names, no error of any verdict
is worded as a fault. Of any snapshot: a judgement that fails leaves one error
and nothing else, whatever had been found before; and it fails with exactly the
fault that the command runs into, so that an error worded as a fault is met
exactly when there is one. -/
theorem faults_stand_alone (s : Snapshot) (mode : Mode) (c : Command) :
    (s.Closed → ∀ error ∈ (assess s mode (some c)).errors, ¬ Folded error) ∧
    (∀ fault, s.findings mode c = .error fault →
      assess s mode (some c) = ⟨["Validation failed: " ++ fault.message], [], []⟩) ∧
    (∀ fault, s.findings mode c = .error fault ↔ s.RunsInto c fault) ∧
    ((∃ error ∈ (assess s mode (some c)).errors, Folded error) ↔
      ∃ fault, s.RunsInto c fault) := by
  refine ⟨fun hclosed error hmem hfolded => ?_, fun fault => Snapshot.assess_of_error,
    fun fault => Snapshot.findings_eq_error_iff, Snapshot.folded_error_iff⟩
  obtain ⟨fault, hruns⟩ := Snapshot.folded_error_iff.mp ⟨error, hmem, hfolded⟩
  exact hclosed.not_runsInto hruns

/-- The demonstration map holds every world that it names. With a loose end and
an order in the queue, a fleet without ships is told so and warned about the
order on a short path, and on one that leaves the map it is told of that
alone. -/
theorem faults_stand_alone_demo :
    (∀ mode c, ∀ error ∈ (assess .demo mode (some c)).errors, ¬ Folded error) ∧
    assess (Snapshot.demoWithLooseEnd.queue ⟨⟨3⟩, .move⟩) .submission (some (.move ⟨3⟩ [⟨1⟩])) =
      ⟨["Fleet 3 has no ships"],
        ["Fleet 3 already has a MOVE order this turn; it will be replaced"], []⟩ ∧
    assess (Snapshot.demoWithLooseEnd.queue ⟨⟨3⟩, .move⟩) .submission
        (some (.move ⟨3⟩ [⟨1⟩, ⟨2⟩, ⟨9⟩, ⟨1⟩])) =
      ⟨["Validation failed: inconsistent game state: W9 is not in the snapshot"], [], []⟩ := by
  have hclosed : Snapshot.demo.Closed := by decide +kernel
  have hfault : (Snapshot.demoWithLooseEnd.queue ⟨⟨3⟩, .move⟩).findings .submission
      (.move ⟨3⟩ [⟨1⟩, ⟨2⟩, ⟨9⟩, ⟨1⟩]) = .error (.missingWorld ⟨9⟩) := by
    decide +kernel
  have hwords : "Validation failed: " ++ (Fault.missingWorld ⟨9⟩).message =
      "Validation failed: inconsistent game state: W9 is not in the snapshot" := by
    decide +kernel
  refine ⟨fun mode c => (faults_stand_alone .demo mode c).1 hclosed, by decide +kernel, ?_⟩
  rw [← hwords]
  exact (faults_stand_alone _ .submission _).2.1 _ hfault

end FleetOrders
