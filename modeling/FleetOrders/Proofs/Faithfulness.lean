/-
FleetOrders.Proofs.Faithfulness — what is found about a command is true of
the snapshot.

A judgement that succeeds objects to the command and never to the snapshot.
What its cautions say holds, and what its hints list stands in the snapshot.

* `Caution.HoldsIn`, `Hint.TakenFrom` — what a caution and a hint say, as
  statements about the snapshot.
* `Findings.Faithful` — all findings are of this kind. It goes through
  findings one behind the other (`Findings.faithful_append`), so every
  judgement has a lemma of a few cases.
* `Snapshot.faithful_of_findings` — the findings of every judgement are.
-/
import FleetOrders.Proofs.Legality

namespace FleetOrders

/-- The caution is true of the snapshot. -/
def Caution.HoldsIn (s : Snapshot) : Caution → Prop
  | .replaces fleet kind => s.exclusiveOrder? fleet = some kind
  | .nothingToHit world target => ∃ w, s.world? world = some w ∧ Snapshot.amountOf w target = 0
  | .ownWorld world => ∃ w, s.OwnWorld world w
  | .ownFleet fleet => ∃ f, s.OwnFleet fleet f
  | .unknownCharacter text => CharacterType.find? text = none

/-- The worlds and fleets that the hint lists are those of the snapshot. -/
def Hint.TakenFrom (s : Snapshot) : Hint → Prop
  | .yourFleets fleets => fleets = s.ownFleets.map Fleet.id
  | .yourWorlds worlds => worlds = s.ownWorlds.map World.id
  | .yourFleetsAt world fleets =>
    fleets = ((s.fleetsAt world).filter fun f => s.isMine f.owner).map Fleet.id
  | .connections world targets => ∃ w, s.world? world = some w ∧ w.connections = targets
  | .sample _ | .most _ _ | .characterTypes => True

namespace Findings

/-- No objection is a fault of the snapshot, every caution holds in it, and
every hint is taken from it. -/
structure Faithful (s : Snapshot) (found : Findings) : Prop where
  objections : ∀ o ∈ found.objections, ∀ fault, o ≠ .fault fault
  cautions : ∀ c ∈ found.cautions, c.HoldsIn s
  hints : ∀ h ∈ found.hints, h.TakenFrom s

variable {s : Snapshot}

@[simp] theorem faithful_none : Faithful s .none :=
  ⟨nofun, nofun, nofun⟩

@[simp] theorem faithful_ofObjection {o : Objection} :
    Faithful s (.ofObjection o) ↔ ∀ fault, o ≠ .fault fault :=
  ⟨fun h => h.objections o (List.mem_singleton_self o),
    fun h => ⟨fun _ ho => List.mem_singleton.mp ho ▸ h, nofun, nofun⟩⟩

@[simp] theorem faithful_ofCaution {c : Caution} : Faithful s (.ofCaution c) ↔ c.HoldsIn s :=
  ⟨fun h => h.cautions c (List.mem_singleton_self c),
    fun h => ⟨nofun, fun _ hc => List.mem_singleton.mp hc ▸ h, nofun⟩⟩

@[simp] theorem faithful_ofHint {hint : Hint} : Faithful s (.ofHint hint) ↔ hint.TakenFrom s :=
  ⟨fun h => h.hints hint (List.mem_singleton_self hint),
    fun h => ⟨nofun, nofun, fun _ hh => List.mem_singleton.mp hh ▸ h⟩⟩

@[simp] theorem faithful_append {a b : Findings} :
    Faithful s (a ++ b) ↔ Faithful s a ∧ Faithful s b := by
  constructor
  · rintro ⟨hobjections, hcautions, hhints⟩
    simp only [objections_append, cautions_append, hints_append, List.mem_append, or_imp,
      forall_and] at hobjections hcautions hhints
    exact ⟨⟨hobjections.1, hcautions.1, hhints.1⟩, hobjections.2, hcautions.2, hhints.2⟩
  · rintro ⟨ha, hb⟩
    refine ⟨fun o ho => ?_, fun c hc => ?_, fun h hh => ?_⟩
    · exact (List.mem_append.mp ho).elim (ha.objections o) (hb.objections o)
    · exact (List.mem_append.mp hc).elim (ha.cautions c) (hb.cautions c)
    · exact (List.mem_append.mp hh).elim (ha.hints h) (hb.hints h)

@[simp] theorem faithful_given {condition : Bool} {found : Findings} :
    Faithful s (.given condition found) ↔ (condition = true → Faithful s found) := by
  cases condition <;> simp [given]

end Findings

namespace Snapshot

open Findings (Faithful)

variable {s : Snapshot} {found : Findings}

/-! ## The shared findings -/

@[simp] theorem faithful_needsShips (f : Fleet) : Faithful s (needsShips f) := by
  simp [needsShips]

@[simp] theorem faithful_replacement (fleet : FleetId) : Faithful s (s.replacement fleet) := by
  unfold replacement
  split
  · rename_i kind hkind
    exact Findings.faithful_ofCaution.mpr hkind
  · exact Findings.faithful_none

@[simp] theorem faithful_needsTogether (f g : Fleet) : Faithful s (needsTogether f g) := by
  simp [needsTogether]

@[simp] theorem faithful_needsAmount (supply : Supply) (amount available : UInt32) :
    Faithful s (needsAmount supply amount available) := by
  unfold needsAmount
  split <;> simp [Hint.TakenFrom]

theorem faithful_of_withOwnFleet {fleet : FleetId} {check : Fleet → Except Fault Findings}
    (hcheck : ∀ f found, check f = .ok found → Faithful s found)
    (h : s.withOwnFleet fleet check = .ok found) : Faithful s found := by
  unfold withOwnFleet at h
  split at h
  · exact hcheck _ _ h
  · obtain rfl := Except.ok.inj h
    simp [fleetsHint, Hint.TakenFrom]

theorem faithful_of_map {before : Findings} {judgement : Except Fault Findings}
    (hbefore : Faithful s before) (hafter : ∀ found, judgement = .ok found → Faithful s found)
    (h : judgement.map (before ++ ·) = .ok found) : Faithful s found := by
  cases judgement with
  | error fault => cases h
  | ok after =>
    obtain rfl := Except.ok.inj h
    exact Findings.faithful_append.mpr ⟨hbefore, hafter after rfl⟩

/-! ## Orders to a fleet -/

theorem faithful_of_pathFindings {start : WorldId} {path : List WorldId}
    (h : s.pathFindings start path = .ok found) : Faithful s found := by
  unfold pathFindings at h
  split at h
  · cases h
  · obtain rfl := Except.ok.inj h
    exact Findings.faithful_none
  · split at h
    · cases h
    · rename_i w hw
      obtain rfl := Except.ok.inj h
      simp [Hint.TakenFrom, hw]

theorem faithful_of_moveFindings {fleet : FleetId} {path : List WorldId}
    (h : s.moveFindings fleet path = .ok found) : Faithful s found := by
  refine faithful_of_withOwnFleet (fun f found h => ?_) h
  dsimp only at h
  split at h
  · obtain rfl := Except.ok.inj h
    simp
  · exact faithful_of_map (by simp) (fun _ => faithful_of_pathFindings) h

theorem faithful_of_garrisonFindings {fleet : FleetId} {f : Fleet}
    (h : s.garrisonFindings fleet f = .ok found) : Faithful s found := by
  unfold garrisonFindings at h
  split at h
  · obtain rfl := Except.ok.inj h
    simp
  · split at h
    · cases h
    · obtain rfl := Except.ok.inj h
      simp

@[simp] theorem faithful_handoverFindings (fleet : FleetId) (f : Fleet) (other : FleetId) :
    Faithful s (s.handoverFindings fleet f other) := by
  unfold handoverFindings
  split
  · simp
  · split <;> simp

theorem faithful_of_transferFindings {fleet : FleetId} {amount : UInt32} {goal : Destination}
    (h : s.transferFindings fleet amount goal = .ok found) : Faithful s found := by
  refine faithful_of_withOwnFleet (fun f found h => ?_) h
  cases goal with
  | industry | population =>
    exact faithful_of_map (by simp) (fun _ => faithful_of_garrisonFindings) h
  | fleet other =>
    obtain rfl := Except.ok.inj h
    simp

theorem faithful_of_fireAtWorldFindings {fleet : FleetId} {target : Resource}
    (h : s.fireAtWorldFindings fleet target = .ok found) : Faithful s found := by
  refine faithful_of_withOwnFleet (fun f found h => ?_) h
  dsimp only at h
  split at h
  · obtain rfl := Except.ok.inj h
    simp
  · split at h
    · cases h
    · rename_i w hw
      obtain rfl := Except.ok.inj h
      simp [Caution.HoldsIn, OwnWorld, hw]

theorem faithful_of_fireAtFleetFindings {fleet target : FleetId}
    (h : s.fireAtFleetFindings fleet target = .ok found) : Faithful s found := by
  refine faithful_of_withOwnFleet (fun f found h => ?_) h
  dsimp only at h
  split at h
  · obtain rfl := Except.ok.inj h
    simp
  · split at h
    · obtain rfl := Except.ok.inj h
      simp
    · rename_i victim hvictim
      obtain rfl := Except.ok.inj h
      simp [Caution.HoldsIn, OwnFleet, hvictim]

theorem faithful_of_ambushFindings {fleet : FleetId}
    (h : s.ambushFindings fleet = .ok found) : Faithful s found := by
  refine faithful_of_withOwnFleet (fun f found h => ?_) h
  obtain rfl := Except.ok.inj h
  simp

/-! ## Orders to a world -/

@[simp] theorem faithful_reinforcementFindings (world : WorldId) (receiver : FleetId) :
    Faithful s (s.reinforcementFindings world receiver) := by
  unfold reinforcementFindings
  split
  · simp
  · split <;> simp [Hint.TakenFrom]

theorem faithful_buildFindings (world : WorldId) (amount : UInt32) (goal : Destination) :
    Faithful s (s.buildFindings world amount goal) := by
  unfold buildFindings
  split
  · simp [worldsHint, Hint.TakenFrom]
  · cases goal <;> simp

/-! ## Any command -/

theorem faithful_joinFindings (text : String) : Faithful s (joinFindings text) := by
  unfold joinFindings
  dsimp only
  split <;> simp [Caution.HoldsIn, Hint.TakenFrom]

theorem faithful_unfinishedFindings (c : Command) : Faithful s (unfinishedFindings c) := by
  unfold unfinishedFindings
  split <;> simp [Hint.TakenFrom]

/-- What a judgement finds is true of the snapshot, unless it runs into a
fault. -/
theorem faithful_of_findings {mode : Mode} {c : Command} (h : s.findings mode c = .ok found) :
    Faithful s found := by
  cases c with
  | move fleet path => exact faithful_of_moveFindings h
  | transfer fleet amount goal => exact faithful_of_transferFindings h
  | fireAtWorld fleet target => exact faithful_of_fireAtWorldFindings h
  | fireAtFleet fleet target => exact faithful_of_fireAtFleetFindings h
  | ambush fleet => exact faithful_of_ambushFindings h
  | build world amount goal => exact Except.ok.inj h ▸ faithful_buildFindings world amount goal
  | join text => exact Except.ok.inj h ▸ faithful_joinFindings text
  | turn => exact Except.ok.inj h ▸ Findings.faithful_none
  | partialJoin =>
    cases mode with
    | live => exact Except.ok.inj h ▸ Findings.faithful_none
    | submission => exact Except.ok.inj h ▸ faithful_joinFindings ""
  | partialFleet | partialWorld | partialTransfer | partialBuild =>
    cases mode with
    | live => exact Except.ok.inj h ▸ Findings.faithful_none
    | submission => exact Except.ok.inj h ▸ faithful_unfinishedFindings _

end Snapshot

end FleetOrders
