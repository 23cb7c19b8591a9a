/-
FleetOrders.Proofs.Indexing — whether what a snapshot lists is found under
the number that the listing shows.

A listing shows the own numbers of entities, and a look-up goes by the
numbers that entities were filed under. The two agree exactly when every
entity is filed under its own number. Putting a snapshot together entity by
entity keeps to that; reading it from bytes does not ask.

* `Roster.Indexed` — every entity is filed under its own number.
* `Roster.indexed_iff` — so it is exactly when each entity listed is the one
  found under its number, and the numbers ascend.
* `Snapshot.Coherent` — the same about the worlds and the fleets of a
  snapshot; `Snapshot.Built.coherent`.
* `Hint.Resolves`, `Suggestion.Resolves` — the worlds and fleets that hints
  and suggestions name are found by the rules that judge orders.
* `Snapshot.coherent_facts` — all of it, about any snapshot.
-/
import FleetOrders.Proofs.Faithfulness
import FleetOrders.Proofs.Finishing
import FleetOrders.Proofs.SnapshotRoundTrip
import FleetOrders.Snapshot.Demo
import Mathlib.Data.List.Nodup

namespace FleetOrders

/-! ## Entities under their own numbers -/

namespace Roster

variable {α : Type} {r : Roster α} {number : α → UInt32}

/-- In a listing by a number that ascends, the number tells entries apart. -/
theorem eq_of_ascending {β : Type} (key : β → UInt32) {es : List β}
    (h : es.Pairwise fun a b => key a < key b) {a b : β} (ha : a ∈ es) (hb : b ∈ es)
    (hkey : key a = key b) : a = b := by
  have hnodup : (es.map key).Nodup := (List.pairwise_map.mpr h).imp UInt32.ne_of_lt
  exact List.inj_on_of_nodup_map hnodup ha hb hkey

theorem get?_eq_some_iff {n : UInt32} {x : α} : r.get? n = some x ↔ (n, x) ∈ r.entries := by
  refine ⟨mem_of_get?, fun h => ?_⟩
  cases hfound : r.entries.find? (fun e => e.1 == n) with
  | none =>
    have hno := List.find?_eq_none.mp hfound (n, x) h
    simp at hno
  | some e =>
    have hget : r.get? n = some e.2 := by rw [get?, hfound, Option.map_some]
    have hsame : (n, e.2) = (n, x) := eq_of_ascending Prod.fst r.ascending (mem_of_get? hget) h rfl
    rw [hget, (Prod.mk.inj hsame).2]

/-- Every entity is filed under its own number. -/
def Indexed (number : α → UInt32) (r : Roster α) : Prop :=
  ∀ e ∈ r.entries, number e.2 = e.1

instance (number : α → UInt32) (r : Roster α) : Decidable (r.Indexed number) :=
  inferInstanceAs (Decidable (∀ e ∈ r.entries, number e.2 = e.1))

theorem Indexed.insert (h : r.Indexed number) (x : α) :
    (r.insert (number x) x).Indexed number := by
  intro e he
  rcases mem_place he with rfl | he
  · rfl
  · exact h e he

/-- Every entity is filed under its own number exactly when each is found
under it and the listing ascends. An entity that is filed twice is found
under its number, but it stands in the listing twice. -/
theorem indexed_iff : r.Indexed number ↔
    (∀ x ∈ r.values, r.get? (number x) = some x) ∧
      r.values.Pairwise fun x y => number x < number y := by
  constructor
  · intro h
    refine ⟨fun x hx => ?_, ?_⟩
    · obtain ⟨e, he, rfl⟩ := List.mem_map.mp hx
      rw [h e he]
      exact get?_eq_some_iff.mpr he
    · rw [values, List.pairwise_map]
      refine r.ascending.imp_of_mem fun ha hb hlt => ?_
      rw [h _ ha, h _ hb]
      exact hlt
  · rintro ⟨hfound, hascend⟩ e he
    have hown : (number e.2, e.2) ∈ r.entries :=
      get?_eq_some_iff.mp (hfound e.2 (List.mem_map.mpr ⟨e, he, rfl⟩))
    rw [values, List.pairwise_map] at hascend
    have hsame : (number e.2, e.2) = e :=
      eq_of_ascending (fun e => number e.2) hascend hown he rfl
    exact congrArg Prod.fst hsame

end Roster

namespace Snapshot

/-- Every world and every fleet is filed under its own number. -/
def Indexed (s : Snapshot) : Prop :=
  s.worlds.Indexed (fun w => w.id.number) ∧ s.fleets.Indexed fun f => f.id.number

instance (s : Snapshot) : Decidable s.Indexed :=
  inferInstanceAs (Decidable (_ ∧ _))

/-- Each world and each fleet that is listed is the one found under its own
number, and both listings ascend. -/
structure Coherent (s : Snapshot) : Prop where
  worlds : ∀ w ∈ s.worlds.values, s.world? w.id = some w
  fleets : ∀ f ∈ s.fleets.values, s.fleet? f.id = some f
  worlds_ascend : s.worlds.values.Pairwise fun v w => v.id.number < w.id.number
  fleets_ascend : s.fleets.values.Pairwise fun f g => f.id.number < g.id.number

theorem coherent_iff_indexed {s : Snapshot} : s.Coherent ↔ s.Indexed := by
  rw [Indexed, Roster.indexed_iff, Roster.indexed_iff]
  constructor
  · rintro ⟨hworlds, hfleets, hworldsAscend, hfleetsAscend⟩
    exact ⟨⟨hworlds, hworldsAscend⟩, hfleets, hfleetsAscend⟩
  · rintro ⟨⟨hworlds, hworldsAscend⟩, hfleets, hfleetsAscend⟩
    exact ⟨hworlds, hfleets, hworldsAscend, hfleetsAscend⟩

theorem Built.indexed {s : Snapshot} (h : s.Built) : s.Indexed := by
  refine ⟨?_, h.number_of_mem⟩
  induction h with
  | ofPlayer player =>
    intro e he
    cases he
  | joining joined _ ih => exact ih
  | addWorld w _ ih => exact ih.insert w
  | addFleet f _ ih => exact ih
  | queue o _ ih => exact ih

theorem Built.coherent {s : Snapshot} (h : s.Built) : s.Coherent :=
  coherent_iff_indexed.mpr h.indexed

/-! ## What the rules find of a listing -/

namespace Coherent

variable {s : Snapshot} (h : s.Coherent)
include h

theorem ownFleet {f : Fleet} (hf : f ∈ s.ownFleets) : s.ownFleet f.id = .ok f := by
  obtain ⟨hlisted, hmine⟩ := List.mem_filter.mp hf
  rw [Snapshot.ownFleet, h.fleets f hlisted]
  exact if_pos hmine

theorem ownWorld {w : World} (hw : w ∈ s.ownWorlds) : s.ownWorld w.id = .ok w := by
  obtain ⟨hlisted, hmine⟩ := List.mem_filter.mp hw
  rw [Snapshot.ownWorld, h.worlds w hlisted]
  exact if_pos hmine

theorem fleetsAt {w : WorldId} {f : Fleet} (hf : f ∈ s.fleetsAt w) :
    s.fleet? f.id = some f ∧ f.station = some w := by
  obtain ⟨hlisted, hstation⟩ := List.mem_filter.mp hf
  exact ⟨h.fleets f hlisted, by simpa using hstation⟩

theorem id_of_world? {n : WorldId} {w : World} (hw : s.world? n = some w) : w.id = n :=
  WorldId.eq_of_number ((coherent_iff_indexed.mp h).1 _ (Roster.mem_of_get? hw))

/-- The fleets around a fleet are other fleets at its world. -/
theorem neighbours {f g : Fleet} (hg : g ∈ s.neighbours f) :
    g.id ≠ f.id ∧ s.fleet? g.id = some g ∧ f.Meets g := by
  unfold Snapshot.neighbours at hg
  split at hg
  · cases hg
  · rename_i here hhere
    obtain ⟨hg, hother⟩ := List.mem_filter.mp hg
    obtain ⟨hfound, hstation⟩ := h.fleetsAt hg
    exact ⟨by simpa using hother, hfound, here, hhere, hstation⟩

end Coherent

end Snapshot

/-! ## Hints -/

/-- The player's worlds and fleets that the hint names are those that the
rules find, and a world whose connections it lists is found with these
connections. -/
def Hint.Resolves (s : Snapshot) : Hint → Prop
  | .yourFleets fleets => ∀ id ∈ fleets, ∃ f, s.ownFleet id = .ok f ∧ f.id = id
  | .yourWorlds worlds => ∀ id ∈ worlds, ∃ w, s.ownWorld id = .ok w ∧ w.id = id
  | .yourFleetsAt world fleets =>
    ∀ id ∈ fleets, ∃ f, s.ownFleet id = .ok f ∧ f.id = id ∧ f.station = some world
  | .connections world targets =>
    ∃ w, s.world? world = some w ∧ w.id = world ∧ w.connections = targets
  | .sample _ | .most _ _ | .characterTypes => True

/-- In a coherent snapshot a hint that is taken from it names what the rules
find. -/
theorem Hint.TakenFrom.resolves {s : Snapshot} (h : s.Coherent) {hint : Hint}
    (htaken : hint.TakenFrom s) : hint.Resolves s := by
  cases hint with
  | yourFleets fleets =>
    obtain rfl : fleets = _ := htaken
    intro id hid
    obtain ⟨f, hf, rfl⟩ := List.mem_map.mp hid
    exact ⟨f, h.ownFleet hf, rfl⟩
  | yourWorlds worlds =>
    obtain rfl : worlds = _ := htaken
    intro id hid
    obtain ⟨w, hw, rfl⟩ := List.mem_map.mp hid
    exact ⟨w, h.ownWorld hw, rfl⟩
  | yourFleetsAt world fleets =>
    obtain rfl : fleets = _ := htaken
    intro id hid
    obtain ⟨g, hg, rfl⟩ := List.mem_map.mp hid
    obtain ⟨hat, hmine⟩ := List.mem_filter.mp hg
    have hown : g ∈ s.ownFleets := List.mem_filter.mpr ⟨(List.mem_filter.mp hat).1, hmine⟩
    exact ⟨g, h.ownFleet hown, rfl, (h.fleetsAt hat).2⟩
  | connections world targets =>
    obtain ⟨w, hw, rfl⟩ : ∃ w, s.world? world = some w ∧ w.connections = targets := htaken
    exact ⟨w, hw, h.id_of_world? hw, rfl⟩
  | sample | most | characterTypes => trivial

/-- Every hint names what the rules find. -/
def Findings.Resolve (s : Snapshot) (found : Findings) : Prop :=
  ∀ h ∈ found.hints, h.Resolves s

namespace Snapshot

open Findings (Resolve)

variable {s : Snapshot}

/-- The judgement, if it is no fault, has hints that name what the rules
find. -/
def Resolving (s : Snapshot) (judgement : Except Fault Findings) : Prop :=
  ∀ found, judgement = .ok found → Resolve s found

/-- Whatever the command, the hints of the judgement name what the rules
find. -/
theorem resolving_findings (h : s.Coherent) (mode : Mode) (c : Command) :
    s.Resolving (s.findings mode c) := by
  intro found hfound hint hmem
  exact ((faithful_of_findings hfound).hints hint hmem).resolves h

end Snapshot

/-! ## Suggestions -/

/-- Suggestions of the kind name a world or a fleet of the map. -/
def SuggestionKind.Names : SuggestionKind → Bool
  | .fleet | .world | .target => true
  | _ => false

/-- The player's fleet or world that the suggestion names is the one that
the rules find; a hop follows a connection; and a target behind the first
tokens that is a fleet is found. -/
structure Suggestion.Resolves (s : Snapshot) (t : Typed) (x : Suggestion) : Prop where
  fleet : x.kind = .fleet → ∃ f, s.ownFleet f.id = .ok f ∧ x.text = f.id.text
  world : x.kind = .world →
    (∃ w, s.ownWorld w.id = .ok w ∧ x.text = w.id.text) ∨
      ∃ source w n, s.Hop source w ∧ Adds (t.upTo n) (WorldId.words w) x
  target : x.kind = .target →
    Adds (t.upTo 3) [] x ∨
      ∃ n d, (n = 3 ∨ n = 4) ∧ Adds (t.upTo n) (Destination.words d) x ∧
        ∀ id, d = .fleet id → ∃ g, s.fleet? id = some g ∧ g.id = id

namespace Snapshot

variable {s : Snapshot} {t : Typed} {x : Suggestion}

/-- Suggestions of other kinds name no world and no fleet of the map. -/
theorem resolves_of_kind {kind : SuggestionKind} (h : x.kind = kind)
    (hother : kind.Names = false) : x.Resolves s t := by
  refine ⟨fun hkind => ?_, fun hkind => ?_, fun hkind => ?_⟩ <;>
    · rw [h.symm.trans hkind] at hother
      cases hother

/-- A suggestion of a world has to name the player's, or a hop. -/
theorem resolves_of_world (hkind : x.kind = .world)
    (h : (∃ w, s.ownWorld w.id = .ok w ∧ x.text = w.id.text) ∨
      ∃ source w n, s.Hop source w ∧ Adds (t.upTo n) (WorldId.words w) x) : x.Resolves s t where
  fleet hfleet := by
    rw [hkind] at hfleet
    cases hfleet
  world _ := h
  target htarget := by
    rw [hkind] at htarget
    cases htarget

/-- A target has to be the first tokens alone, or a destination behind
them. -/
theorem resolves_of_target (hkind : x.kind = .target)
    (h : Adds (t.upTo 3) [] x ∨
      ∃ n d, (n = 3 ∨ n = 4) ∧ Adds (t.upTo n) (Destination.words d) x ∧
        ∀ id, d = .fleet id → ∃ g, s.fleet? id = some g ∧ g.id = id) : x.Resolves s t where
  fleet hfleet := by
    rw [hkind] at hfleet
    cases hfleet
  world hworld := by
    rw [hkind] at hworld
    cases hworld
  target _ := h

theorem resolves_of_mem_joinSuggestions (h : x ∈ joinSuggestions t) : x.Resolves s t := by
  have hcharacter : ∃ c, x = Suggestion.ofCharacter c := by
    unfold joinSuggestions at h
    split at h
    · split at h
      · obtain ⟨p, -, rfl⟩ := List.mem_map.mp h
        exact ⟨p.2, rfl⟩
      · obtain ⟨c, -, rfl⟩ := List.mem_map.mp h
        exact ⟨c, rfl⟩
    · obtain ⟨c, -, rfl⟩ := List.mem_map.mp h
      exact ⟨c, rfl⟩
  obtain ⟨c, rfl⟩ := hcharacter
  exact resolves_of_kind rfl rfl

theorem resolves_of_mem_fleetActions {base : String} (h : x ∈ Suggestion.fleetActions base) :
    x.Resolves s t := by
  simp only [Suggestion.fleetActions, List.mem_cons, List.not_mem_nil, or_false] at h
  rcases h with rfl | rfl | rfl <;> exact resolves_of_kind rfl rfl

theorem resolves_of_mem_fleetActionStage {fleet : FleetId} (h : x ∈ s.fleetActionStage fleet t) :
    x.Resolves s t := by
  unfold fleetActionStage at h
  split at h
  · split at h
    · obtain ⟨w, hhop, hadds⟩ := adds_of_mem_hopsFrom h
      exact resolves_of_world (kind_of_mem_hopsFrom h) (.inr ⟨_, w, _, hhop, hadds⟩)
    · exact resolves_of_mem_fleetActions h
  · exact resolves_of_mem_fleetActions h

/-- Every hop that is offered for a path follows a connection. -/
theorem resolves_of_mem_pathStage {fleet : FleetId} (h : x ∈ s.pathStage fleet t) :
    x.Resolves s t := by
  have hoffered : ∀ {f : Fleet} {hops : List WorldId} {n : Nat} {y : Suggestion},
      y ∈ s.nextHops f hops (t.upTo n) → x.text = y.text → x.kind = y.kind → x.Resolves s t := by
    intro f hops n y hy htext hkind
    obtain ⟨source, w, -, hhop, hadds⟩ := adds_of_mem_nextHops hy
    have hadds' : Adds (t.upTo n) w.words x := by
      rw [Adds, htext]
      exact hadds
    exact resolves_of_world (hkind.trans (kind_of_mem_nextHops hy))
      (.inr ⟨source, w, n, hhop, hadds'⟩)
  unfold pathStage at h
  split at h
  · cases h
  dsimp only at h
  split at h
  · exact hoffered h rfl rfl
  split at h
  · cases h
  obtain ⟨y, hy, htext, hkind⟩ := exists_of_mem_noteWalk h
  rcases List.mem_append.mp hy with hy | hy
  · exact hoffered hy htext hkind
  · exact hoffered (mem_nextHops_of_mem_longerHops hy).2 htext hkind

theorem resolves_of_offersShips {fleets : List Fleet}
    (hfound : ∀ g ∈ fleets, s.fleet? g.id = some g) (h : OffersShips (t.upTo 4) fleets x) :
    x.Resolves s t := by
  obtain ⟨hkind, d, hadds, hfleet⟩ := h
  refine resolves_of_target hkind (.inr ⟨4, d, .inr rfl, hadds, fun id hid => ?_⟩)
  obtain ⟨g, hg, rfl⟩ := hfleet id hid
  exact ⟨g, hfound g hg, rfl⟩

theorem resolves_of_mem_amountStage {available : Option UInt32} {targets : List Suggestion}
    (htargets : 4 ≤ t.count → ∀ y ∈ targets, y.Resolves s t)
    (h : x ∈ amountStage t available targets) : x.Resolves s t := by
  unfold amountStage at h
  split at h
  · split at h
    · exact resolves_of_kind (Suggestion.kind_of_mem_amounts h) rfl
    · cases h
  · rcases List.mem_append.mp h with h | h
    · exact htargets (by omega) x h
    · split at h
      · have hlonger := (Suggestion.mem_longerThan h).1
        exact resolves_of_kind (Suggestion.kind_of_mem_amounts hlonger) rfl
      · cases h

section Listings

variable (h : s.Coherent)
include h

theorem resolves_ofFleet {f : Fleet} (hf : f ∈ s.ownFleets) (hkind : x.kind = .fleet)
    (htext : x.text = f.id.text) : x.Resolves s t where
  fleet _ := ⟨f, h.ownFleet hf, htext⟩
  world hworld := by
    rw [hkind] at hworld
    cases hworld
  target htarget := by
    rw [hkind] at htarget
    cases htarget

theorem resolves_of_mem_openings (hx : x ∈ s.openings) : x.Resolves s t := by
  unfold openings at hx
  rcases List.mem_append.mp hx with hx | hx
  rcases List.mem_append.mp hx with hx | hx
  rcases List.mem_append.mp hx with hx | hx
  · split at hx
    · cases hx
    · obtain rfl := List.mem_singleton.mp hx
      exact resolves_of_kind rfl rfl
  · obtain ⟨f, hf, rfl⟩ := List.mem_map.mp hx
    exact resolves_ofFleet h hf rfl rfl
  · obtain ⟨w, hw, rfl⟩ := List.mem_map.mp hx
    exact resolves_of_world rfl (.inl ⟨w, h.ownWorld hw, rfl⟩)
  · obtain rfl := List.mem_singleton.mp hx
    exact resolves_of_kind rfl rfl

theorem resolves_of_mem_matching {line : String} (hx : x ∈ s.matching line) : x.Resolves s t := by
  obtain ⟨p, hp, rfl⟩ := List.mem_map.mp hx
  rcases List.mem_append.mp (Similarity.mem_of_mem_ranked hp) with hx | hx
  · exact resolves_of_mem_openings h hx
  · simp only [List.mem_cons, List.not_mem_nil, or_false] at hx
    rcases hx with hx | hx <;> rw [hx] <;> exact resolves_of_kind rfl rfl

theorem resolves_of_mem_fleetNumbers (hx : x ∈ s.fleetNumbers t) : x.Resolves s t := by
  unfold fleetNumbers at hx
  rcases List.mem_append.mp (Typed.mem_keepExtending hx).1 with hx | hx
  · obtain ⟨f, hf, rfl⟩ := List.mem_map.mp hx
    exact resolves_ofFleet h hf rfl rfl
  · split at hx
    · cases hx
    · split at hx
      · exact resolves_of_mem_fleetActions hx
      · cases hx

theorem resolves_of_mem_worldNumbers (hx : x ∈ s.worldNumbers t) : x.Resolves s t := by
  unfold worldNumbers at hx
  rcases List.mem_append.mp (Typed.mem_keepExtending hx).1 with hx | hx
  · obtain ⟨w, hw, rfl⟩ := List.mem_map.mp hx
    exact resolves_of_world rfl (.inl ⟨w, h.ownWorld hw, rfl⟩)
  · split at hx
    · cases hx
    · split at hx
      · obtain rfl := List.mem_singleton.mp hx
        exact resolves_of_kind rfl rfl
      · cases hx

theorem resolves_of_mem_transferTargets {fleet : FleetId}
    (hx : x ∈ s.transferTargets fleet (t.upTo 4)) : x.Resolves s t := by
  obtain ⟨f, -, -, -, hoffer⟩ := offersShips_of_mem_transferTargets hx
  exact resolves_of_offersShips (fun g hg => (h.neighbours (List.mem_filter.mp hg).1).2.1) hoffer

theorem resolves_of_mem_buildTargets {world : WorldId}
    (hx : x ∈ s.buildTargets world (t.upTo 4)) : x.Resolves s t :=
  resolves_of_offersShips (fun _ hg => (h.fleetsAt (List.mem_filter.mp hg).1).1)
    (offersShips_of_mem_buildTargets hx)

theorem resolves_of_mem_attackTargets {fleet : FleetId}
    (hx : x ∈ s.attackTargets fleet (t.upTo 3)) : x.Resolves s t := by
  obtain ⟨hkind, hadds⟩ := facts_of_mem_attackTargets hx
  refine resolves_of_target hkind ?_
  rcases hadds with hadds | ⟨r, hadds⟩ | ⟨f, g, -, hg, -, hadds⟩
  · exact .inl hadds
  · cases r with
    | population => exact .inr ⟨3, .population, .inl rfl, hadds, nofun⟩
    | industry => exact .inr ⟨3, .industry, .inl rfl, hadds, nofun⟩
  · refine .inr ⟨3, .fleet g.id, .inl rfl, hadds, fun id hid => ?_⟩
    obtain rfl := Destination.fleet.inj hid
    exact ⟨g, (h.neighbours hg).2.1, rfl⟩

theorem resolves_of_mem_fleetStage {ts : List Token} {stage : FleetStage}
    (hstage : Stage.ofKinds (ts.map Token.kind) = .fleet stage) (hx : x ∈ s.fleetStage stage ⟨ts⟩) :
    x.Resolves s ⟨ts⟩ := by
  obtain ⟨-, hdescribes⟩ := Stage.fleet_facts hstage
  rw [List.length_map] at hdescribes
  cases hn : (Typed.mk ts).number? 1 with
  | none =>
    cases stage with
    | fleetId => exact resolves_of_mem_fleetNumbers h hx
    | _ => simp [fleetStage, hn] at hx
  | some n =>
    cases stage with
    | fleetId => exact resolves_of_mem_fleetNumbers h hx
    | action =>
      simp only [fleetStage, hn] at hx
      exact resolves_of_mem_fleetActionStage hx
    | movePath =>
      simp only [fleetStage, hn] at hx
      exact resolves_of_mem_pathStage (Typed.mem_keepExtending hx).1
    | transferAmount =>
      simp only [fleetStage, hn] at hx
      have hfour := Typed.upTo_of_le (t := ⟨ts⟩) hdescribes.2.2
      rw [transferAmountStage_eq, ← hfour] at hx
      exact resolves_of_mem_amountStage
        (fun _ y hy => resolves_of_mem_transferTargets h hy)
        (Typed.mem_keepExtending hx).1
    | transferTarget =>
      simp only [fleetStage, hn] at hx
      exact resolves_of_mem_transferTargets h (Typed.mem_keepExtending hx).1
    | attackType | attackTarget =>
      simp only [fleetStage, hn] at hx
      exact resolves_of_mem_attackTargets h (Typed.mem_keepExtending hx).1

theorem resolves_of_mem_worldStage {ts : List Token} {stage : WorldStage}
    (hstage : Stage.ofKinds (ts.map Token.kind) = .world stage) (hx : x ∈ s.worldStage stage ⟨ts⟩) :
    x.Resolves s ⟨ts⟩ := by
  obtain ⟨-, hdescribes⟩ := Stage.world_facts hstage
  rw [List.length_map] at hdescribes
  cases hn : (Typed.mk ts).number? 1 with
  | none =>
    cases stage with
    | worldId => exact resolves_of_mem_worldNumbers h hx
    | _ => simp [worldStage, hn] at hx
  | some n =>
    cases stage with
    | worldId => exact resolves_of_mem_worldNumbers h hx
    | action =>
      simp only [worldStage, hn] at hx
      obtain rfl := List.mem_singleton.mp (Typed.mem_keepExtending hx).1
      exact resolves_of_kind rfl rfl
    | buildAmount =>
      simp only [worldStage, hn] at hx
      have hfour := Typed.upTo_of_le (t := ⟨ts⟩) hdescribes.2.2
      rw [buildAmountStage_eq, ← hfour] at hx
      exact resolves_of_mem_amountStage
        (fun _ y hy => resolves_of_mem_buildTargets h hy)
        (Typed.mem_keepExtending hx).1
    | buildTarget =>
      simp only [worldStage, hn] at hx
      exact resolves_of_mem_buildTargets h (Typed.mem_keepExtending hx).1

theorem resolves_of_mem_staged {limit : Nat} {line : String}
    (hx : x ∈ s.staged limit line ⟨lineTokens line⟩ (Reading.live line).stage) :
    x.Resolves s ⟨lineTokens line⟩ := by
  have hkinds := Reading.live_stage line
  cases hstage : (Reading.live line).stage with
  | empty =>
    rw [hstage] at hx
    exact resolves_of_mem_openings h (List.mem_mergeSort.mp (List.mem_of_mem_take hx))
  | fleet stage =>
    rw [hstage] at hx hkinds
    exact resolves_of_mem_fleetStage h hkinds.symm hx
  | world stage =>
    rw [hstage] at hx hkinds
    exact resolves_of_mem_worldStage h hkinds.symm hx
  | join =>
    rw [hstage] at hx
    exact resolves_of_mem_joinSuggestions hx
  | turn =>
    rw [hstage] at hx
    obtain rfl := List.mem_singleton.mp hx
    exact resolves_of_kind rfl rfl
  | unknown =>
    rw [hstage] at hx
    exact resolves_of_mem_matching h hx

theorem resolves_of_mem_suggestions {limit : Nat} {line : String}
    (hx : x ∈ (s.analyze limit line).suggestions) : x.Resolves s ⟨lineTokens line⟩ := by
  obtain ⟨-, ⟨sub, -, -, hkind⟩ | ⟨y, hy, htext, hkind⟩⟩ := facts_of_mem_suggestions hx
  · exact resolves_of_kind hkind rfl
  · obtain ⟨hfleet, hworld, htarget⟩ := resolves_of_mem_staged h hy
    simp only [Adds, ← htext, ← hkind] at hfleet hworld htarget
    exact ⟨hfleet, hworld, htarget⟩

end Listings

/-! ## Any snapshot -/

/-- Every snapshot that was put together entity by entity is coherent. Of
any snapshot at all, read from bytes or not, this holds exactly when each
world and fleet is filed under its own number; and bytes are read to
snapshots whether or not they do that. In a coherent snapshot the player's
worlds and fleets, the fleets at a world, the hints of every judgement and
the suggestions for every line name what the rules find. -/
theorem coherent_facts (s : Snapshot) :
    (s.Built → s.Coherent) ∧ (s.Coherent ↔ s.Indexed) ∧
      (s.Fits → ∃ bytes, ofBytes? bytes = some s) ∧
      (s.Coherent →
        (∀ f ∈ s.ownFleets, s.ownFleet f.id = .ok f) ∧
        (∀ w ∈ s.ownWorlds, s.ownWorld w.id = .ok w) ∧
        (∀ w, ∀ f ∈ s.fleetsAt w, s.fleet? f.id = some f ∧ f.station = some w) ∧
        (∀ mode c found, s.findings mode c = .ok found → ∀ hint ∈ found.hints, hint.Resolves s) ∧
        ∀ limit line, ∀ x ∈ (s.analyze limit line).suggestions,
          x.Resolves s ⟨lineTokens line⟩) := by
  refine ⟨Built.coherent, coherent_iff_indexed, fun hfits => ⟨s.bytes, ?_⟩, fun h => ?_⟩
  · have hread := readsBack hfits fieldRoom []
    rw [List.append_nil] at hread
    rw [ofBytes?, hread]
    rfl
  · exact ⟨fun _ => h.ownFleet, fun _ => h.ownWorld, fun _ _ => h.fleetsAt,
      resolving_findings h, fun _ _ _ => resolves_of_mem_suggestions h⟩

/-- On the demonstration map, which was put together entity by entity. -/
theorem coherent_facts_demo :
    demo.Built ∧ demo.Coherent ∧ (∃ bytes, ofBytes? bytes = some demo) ∧
      demo.ownFleet ⟨4⟩ = .ok ⟨⟨4⟩, some "Commander", none, 6, 0⟩ ∧
      ∀ limit line, ∀ x ∈ (demo.analyze limit line).suggestions,
        x.Resolves demo ⟨lineTokens line⟩ := by
  obtain ⟨hbuilt, -, hbytes, hfacts⟩ := coherent_facts demo
  have hfits : demo.Fits :=
    ⟨by decide +kernel, by decide +kernel, by decide +kernel, by decide +kernel,
      by decide +kernel, by decide +kernel⟩
  have hcoherent := hbuilt built_demo
  obtain ⟨hfleets, -, -, -, hsuggestions⟩ := hfacts hcoherent
  have hlisted : (⟨⟨4⟩, some "Commander", none, 6, 0⟩ : Fleet) ∈ demo.ownFleets := by
    decide +kernel
  exact ⟨built_demo, hcoherent, hbytes hfits, hfleets _ hlisted, hsuggestions⟩

/-- The bytes of a snapshot that files the player's worlds 2 and 1 under the
numbers 3 and 5. -/
def misfiledBytes : Bytes :=
  [0x85, 0xA6, 0x70, 0x6C, 0x61, 0x79, 0x65, 0x72, 0xA2, 0x4D, 0x65, 0xA6, 0x6A, 0x6F, 0x69, 0x6E,
    0x65, 0x64, 0xC2, 0xA6, 0x77, 0x6F, 0x72, 0x6C, 0x64, 0x73, 0x82, 0x03, 0x85, 0xA2, 0x69,
    0x64, 0x02, 0xA5, 0x6F, 0x77, 0x6E, 0x65, 0x72, 0xA2, 0x4D, 0x65, 0xA8, 0x69, 0x6E, 0x64,
    0x75, 0x73, 0x74, 0x72, 0x79, 0x00, 0xAA, 0x70, 0x6F, 0x70, 0x75, 0x6C, 0x61, 0x74, 0x69,
    0x6F, 0x6E, 0x00, 0xAB, 0x63, 0x6F, 0x6E, 0x6E, 0x65, 0x63, 0x74, 0x69, 0x6F, 0x6E, 0x73,
    0x90, 0x05, 0x85, 0xA2, 0x69, 0x64, 0x01, 0xA5, 0x6F, 0x77, 0x6E, 0x65, 0x72, 0xA2, 0x4D,
    0x65, 0xA8, 0x69, 0x6E, 0x64, 0x75, 0x73, 0x74, 0x72, 0x79, 0x00, 0xAA, 0x70, 0x6F, 0x70,
    0x75, 0x6C, 0x61, 0x74, 0x69, 0x6F, 0x6E, 0x00, 0xAB, 0x63, 0x6F, 0x6E, 0x6E, 0x65, 0x63,
    0x74, 0x69, 0x6F, 0x6E, 0x73, 0x90, 0xA6, 0x66, 0x6C, 0x65, 0x65, 0x74, 0x73, 0x80, 0xA6,
    0x6F, 0x72, 0x64, 0x65, 0x72, 0x73, 0x90]

/-- World 2 is listed before world 1, and neither is found under its
number. -/
theorem not_coherent_of_misfiledBytes :
    ∃ s v w, ofBytes? misfiledBytes = some s ∧ s.ownWorlds = [v, w] ∧ v.id = ⟨2⟩ ∧ w.id = ⟨1⟩ ∧
      s.world? v.id = none ∧ s.world? w.id = none ∧ ¬ s.Coherent := by
  let v : World := ⟨⟨2⟩, some "Me", 0, 0, []⟩
  let w : World := ⟨⟨1⟩, some "Me", 0, 0, []⟩
  refine ⟨{ ofPlayer "Me" with worlds := (Roster.empty.insert 3 v).insert 5 w }, v, w,
    by decide +kernel, by decide +kernel, rfl, rfl, by decide +kernel, by decide +kernel,
    fun h => ?_⟩
  exact absurd (coherent_iff_indexed.mp h) (by decide +kernel)

end Snapshot

end FleetOrders
