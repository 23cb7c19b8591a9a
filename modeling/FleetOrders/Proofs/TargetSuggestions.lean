/-
FleetOrders.Proofs.TargetSuggestions — which of the targets that are offered
are legal.

Three orders take a target behind what is typed: a transfer and a build
behind the amount, an attack behind its letter. Whatever else stands on the
line, a suggestion for it is one of three things: the line itself, when it
passes its check; a longer amount, which is no complete order; or a target
behind the first tokens.

* `ReadsAs`, `Snapshot.Accepts` — what a text is accepted as, and when it is
  valid.
* `Leads.comparable` — two lists of words that lead the same tokens are the
  beginning of one another; so the command of a line that starts with an
  order is that order (`Command.eq_transfer`).
* `Snapshot.BehindAmount` — a suggestion behind an amount.
* `Snapshot.transfer_suggestions` — a garrison is offered on foreign worlds
  too, where it is not legal; all else is.
* `Snapshot.build_attack_suggestions` — what is offered for builds and
  attacks is legal.
-/
import FleetOrders.Proofs.Indexing
import FleetOrders.Proofs.MoveCompletion

namespace FleetOrders

/-! ## Readings of suggestions -/

/-- The command is given to a fleet or to a world. -/
def Command.HasSubject : Command → Prop
  | .join _ | .partialJoin | .turn => False
  | _ => True

/-- The text is accepted for sending, as the command. -/
def ReadsAs (text : String) (c : Command) : Prop :=
  (Reading.final text).error = none ∧ (Reading.final text).command = some c

namespace ReadsAs

variable {text : String} {c : Command}

theorem isSubmittable (h : ReadsAs text c) : isSubmittable text = c.isComplete := by
  simp [FleetOrders.isSubmittable, h.1, h.2]

/-- A text that spells an order to a fleet or a world is accepted as it. -/
theorem of_spells (hs : Spells c.words text.toList) (hsubject : c.HasSubject)
    (hstop : c.StopsBefore .endOfInput) : ReadsAs text c := by
  have hapart : Apart c.words := by
    refine c.apart_words (fun text hjoin => ?_) ?_ ?_
    · rw [hjoin] at hsubject
      exact hsubject
    · rintro rfl
      exact hsubject
    · rintro rfl
      exact hsubject
  exact Reading.final_of_spells hs hapart hstop

end ReadsAs

/-! ## The command of a line that starts with an order -/

/-- A token is one word at most. -/
theorem Word.Fits.unique {v w : Word} {t : Token} (hv : v.Fits t) (hw : w.Fits t) : v = w := by
  have hkind : v.kind = w.kind := hv.kind.symm.trans hw.kind
  cases v with
  | sign r =>
    cases w with
    | sign s => rw [Sign.kind_injective hkind]
    | number n => exact absurd hkind r.kind_ne_number
    | free text => exact absurd hkind r.kind_ne_joinText
  | number n =>
    cases w with
    | sign s => exact absurd hkind.symm s.kind_ne_number
    | number m => rw [Option.some.inj (hv.2.symm.trans hw.2)]
    | free text => cases hkind
  | free text =>
    cases w with
    | sign s => exact absurd hkind.symm s.kind_ne_joinText
    | number n => cases hkind
    | free other => rw [hv.2.symm.trans hw.2]

/-- One of the lists of words is the beginning of the other. -/
def Comparable (vs ws : List Word) : Prop :=
  vs <+: ws ∨ ws <+: vs

@[simp] theorem comparable_nil (ws : List Word) : Comparable [] ws :=
  .inl List.nil_prefix

@[simp] theorem comparable_cons {v w : Word} {vs ws : List Word} :
    Comparable (v :: vs) (w :: ws) ↔ v = w ∧ Comparable vs ws := by
  rw [Comparable, Comparable, List.cons_prefix_cons, List.cons_prefix_cons]
  tauto

/-- Words that lead the same tokens are comparable. -/
theorem Leads.comparable {vs ws : List Word} {ts rest rest' : List Token} (hv : Leads vs ts rest)
    (hw : Leads ws ts rest') : Comparable vs ws := by
  induction vs generalizing ws ts with
  | nil => exact comparable_nil ws
  | cons v vs ih =>
    cases ws with
    | nil => exact .inr List.nil_prefix
    | cons w ws =>
      obtain ⟨t, more, rfl, ht, hvs⟩ := hv
      obtain ⟨t', more', heq, ht', hws⟩ := hw
      obtain ⟨rfl, rfl⟩ := List.cons.inj heq
      exact comparable_cons.mpr ⟨ht.unique ht', ih hvs hws⟩

namespace Command

variable {c : Command} (hcomplete : c.isComplete = true) (hformed : c.WellFormed)
include hcomplete hformed

theorem eq_transfer {fleet : FleetId} {amount : UInt32}
    (h : Comparable (fleet.words ++ [.sign .transfer, .number amount]) c.words) :
    ∃ goal, c = .transfer fleet amount goal := by
  cases c with
  | transfer f n goal =>
    have hsame : fleet.number = f.number ∧ amount = n := by simpa [words, FleetId.words] using h
    obtain rfl : fleet = f := FleetId.eq_of_number hsame.1
    exact ⟨goal, by rw [hsame.2]⟩
  | move f path =>
    cases path with
    | nil => exact absurd rfl hformed
    | cons w path => simp [words, FleetId.words, WorldId.words] at h
  | partialFleet | partialTransfer => cases hcomplete
  | _ => simp [words, FleetId.words, WorldId.words] at h

end Command

namespace Snapshot

variable {s : Snapshot} {line : String} {x : Suggestion}

/-! ## The line itself -/

/-- The text is accepted for sending, and its command is valid. -/
def Accepts (s : Snapshot) (text : String) : Prop :=
  ∃ c, ReadsAs text c ∧ (assess s .submission (some c)).isValid = true

theorem accepts_of_reads {text : String} {c : Command} (h : ReadsAs text c) (hlegal : s.Legal c) :
    s.Accepts text :=
  ⟨c, h, isValid_assess_submission_iff.mpr hlegal⟩

/-- What passes its check is accepted as a legal command. -/
theorem facts_of_check {sub : Submission} (h : s.check line = .ok sub) :
    sub.command.isComplete = true ∧ sub.command.WellFormed ∧ ReadsAs sub.wire sub.command ∧
      s.Legal sub.command := by
  obtain ⟨hcommand, hwire⟩ := check_ok_facts h
  have hformed := Reading.wellFormed_of_live_command hcommand
  obtain ⟨herror, -, hread⟩ := Reading.final_wire hwire hformed
  refine ⟨Command.isComplete_of_wire? hwire, hformed, ⟨herror, hread⟩, ?_⟩
  rw [← isValid_assess_submission_iff]
  unfold check at h
  dsimp only at h
  rw [Reading.final_command, hcommand] at h
  cases hfinal : (Reading.final line).error with
  | some e =>
    rw [hfinal] at h
    cases h
  | none =>
    simp only [hfinal, checkCommand] at h
    split at h
    · assumption
    · cases h

theorem accepts_of_check {sub : Submission} (h : s.check line = .ok sub) : s.Accepts sub.wire := by
  obtain ⟨-, -, hreads, hlegal⟩ := facts_of_check h
  exact accepts_of_reads hreads hlegal

/-- The words that a line starts with and those of its command are
comparable. -/
theorem comparable_of_check {sub : Submission} (h : s.check line = .ok sub) {vs : List Word}
    {rest : List Token} (hleads : Leads vs (lineTokens line) rest) :
    Comparable vs sub.command.words := by
  obtain ⟨left, horder⟩ := Reading.live_command_eq_some_iff.mp (check_ok_facts h).1
  obtain ⟨stop, htokens⟩ := exists_tokenize_eq line
  rw [htokens] at horder
  exact (hleads.append _).comparable (Reading.order_eq_ok_iff.mp horder).1

/-! ## Behind an amount -/

/-- The suggestion puts another amount in the place of one, or a target
behind it. -/
inductive BehindAmount (vs : List Word) (amount : UInt32) (fleets : List Fleet)
    (x : Suggestion) : Prop where
  | amount (n : UInt32) (hkind : x.kind = .amount)
    (hspells : Spells (vs ++ [.number n]) x.text.toList)
  | target (d : Destination) (hkind : x.kind = .target)
    (hspells : Spells (vs ++ [.number amount] ++ d.words) x.text.toList)
    (hfleet : ∀ id, d = .fleet id → ∃ g ∈ fleets, g.id = id)

section BehindAmount

variable {vs : List Word} {amount : UInt32} {ts rest : List Token} {fleets : List Fleet}
  (hleads : Leads (vs ++ [.number amount]) ts rest) (hlength : vs.length = 3)
  (hsound : ∀ t ∈ ts, t.Sound)
include hleads hlength hsound

theorem behindAmount_of_offersShips (h : OffersShips ((Typed.mk ts).upTo 4) fleets x) :
    BehindAmount vs amount fleets x := by
  obtain ⟨hkind, d, hadds, hfleet⟩ := h
  have hfour : (vs ++ [Word.number amount]).length = 4 := by
    rw [List.length_append, hlength]
    rfl
  rw [← hfour] at hadds
  exact .target d hkind (hleads.spells_of_adds hsound hadds) hfleet

theorem behindAmount_of_mem_amountStage (hrest : rest = []) {available : Option UInt32}
    {targets : List Suggestion}
    (htargets : ∀ y ∈ targets, OffersShips (Typed.mk ts).text fleets y)
    (h : x ∈ amountStage ⟨ts⟩ available targets) : BehindAmount vs amount fleets x := by
  have hcount : (Typed.mk ts).count = 4 := by
    have htokens := hleads.length_eq
    rw [List.length_append, hlength, hrest] at htokens
    exact htokens
  unfold amountStage at h
  rw [if_neg (by omega)] at h
  rcases List.mem_append.mp h with h | h
  · have hoffer := htargets x h
    rw [← Typed.upTo_of_le (Nat.le_of_eq hcount)] at hoffer
    exact behindAmount_of_offersShips hleads hlength hsound hoffer
  · split at h
    · have hkind := Suggestion.kind_of_mem_amounts (Suggestion.mem_longerThan h).1
      obtain ⟨n, hadds⟩ := Typed.adds_of_mem_longerAmounts h
      obtain ⟨mid, hvs, -⟩ := leads_append.mp hleads
      rw [← hlength] at hadds
      exact .amount n hkind (hvs.spells_of_adds hsound hadds)
    · cases h

end BehindAmount

/-! ## Transfers -/

/-- A garrison takes ships exactly on a world of the player; a fleet that is
offered takes them anywhere. -/
theorem legal_transfer_iff {fleet : FleetId} {f : Fleet} {amount : UInt32} {here : WorldId}
    (hcoherent : s.Coherent) (hown : s.OwnFleet fleet f) (hid : f.id = fleet)
    (hstation : f.station = some here) {w : World} (hworld : s.world? here = some w)
    (hamount : 1 ≤ amount ∧ amount ≤ f.ships)
    {goal : Destination} (hgoal : ∀ id, goal = .fleet id →
      ∃ g ∈ (s.neighbours f).filter fun g => s.isMine g.owner, g.id = id) :
    s.Legal (.transfer fleet amount goal) ↔
      (∃ id, goal = .fleet id) ∨ s.isMine w.owner = true := by
  have htakes : s.Legal (.transfer fleet amount goal) ↔ s.TakesShips fleet f goal := by
    constructor
    · rintro ⟨f', hown', -, htakes⟩
      obtain rfl : f = f' := Option.some.inj (hown.1.symm.trans hown'.1)
      exact htakes
    · exact fun htakes => ⟨f, hown, hamount, htakes⟩
  have hgarrison : (∃ here w, f.station = some here ∧ s.OwnWorld here w) ↔
      s.isMine w.owner = true := by
    rw [isMine_iff]
    constructor
    · rintro ⟨here', w', hhere, hfound, howner⟩
      obtain rfl : here = here' := Option.some.inj (hstation.symm.trans hhere)
      obtain rfl : w = w' := Option.some.inj (hworld.symm.trans hfound)
      exact howner
    · exact fun howner => ⟨here, w, hstation, hworld, howner⟩
  rw [htakes]
  cases goal with
  | industry | population => exact hgarrison.trans (by simp)
  | fleet id =>
    obtain ⟨g, hg, rfl⟩ := hgoal id rfl
    obtain ⟨hother, hfound, hmeets⟩ := hcoherent.neighbours (List.mem_filter.mp hg).1
    exact iff_of_true ⟨hid ▸ hother, g, hfound, hmeets⟩ (.inl ⟨_, rfl⟩)

section Transfer

variable {fleet : FleetId} {amount : UInt32} {f : Fleet} {here : WorldId} {rest : List Token}
  (hleads : Leads (fleet.words ++ [.sign .transfer, .number amount]) (lineTokens line) rest)
include hleads

/-- What the stage finds behind the amount of a transfer. -/
theorem behindAmount_of_mem_transfer (hf : s.fleet? fleet = some f) {limit : Nat}
    (h : x ∈ s.staged limit line ⟨lineTokens line⟩ (Reading.live line).stage) :
    BehindAmount (fleet.words ++ [.sign .transfer]) amount
      ((s.neighbours f).filter fun g => s.isMine g.owner) x := by
  have hsound : ∀ t ∈ lineTokens line, t.Sound := fun _ => sound_of_mem_lineTokens
  have hships : ∀ {base : String} {y : Suggestion}, y ∈ s.transferTargets fleet base →
      OffersShips base ((s.neighbours f).filter fun g => s.isMine g.owner) y := by
    intro base y hy
    obtain ⟨f', -, hf', -, hoffer⟩ := offersShips_of_mem_transferTargets hy
    obtain rfl : f = f' := Option.some.inj (hf.symm.trans hf')
    exact hoffer
  have hn := Typed.number?_of_leads hleads
  cases rest with
  | nil =>
    have hstage : (Reading.live line).stage = .fleet .transferAmount := by
      rw [Reading.live_stage, hleads.map_kind]
      rfl
    rw [hstage] at h
    simp only [staged, fleetStage, hn] at h
    rw [transferAmountStage_eq] at h
    exact behindAmount_of_mem_amountStage hleads rfl hsound rfl (fun _ => hships)
      (Typed.mem_keepExtending h).1
  | cons t rest =>
    have hstage : (Reading.live line).stage = .fleet .transferTarget := by
      rw [Reading.live_stage, hleads.map_kind]
      rfl
    rw [hstage] at h
    simp only [staged, fleetStage, hn] at h
    exact behindAmount_of_offersShips hleads rfl hsound (hships (Typed.mem_keepExtending h).1)

/-- The line itself, offered for sending, is the transfer with a goal. -/
theorem transfer_of_check {sub : Submission} (hsub : s.check line = .ok sub) :
    ∃ goal, sub.command = .transfer fleet amount goal := by
  obtain ⟨hcomplete, hformed, -⟩ := facts_of_check hsub
  exact Command.eq_transfer hcomplete hformed (comparable_of_check hsub hleads)

/-- Whatever is offered as complete is the transfer with a goal: one that
passed its check, or one that the stage found. -/
theorem transfer_of_complete (hf : s.fleet? fleet = some f) {limit : Nat}
    (hx : x ∈ (s.analyze limit line).suggestions) (hcomplete : x.complete = true) :
    ∃ goal, ReadsAs x.text (.transfer fleet amount goal) ∧
      (s.Legal (.transfer fleet amount goal) ∨ ∀ id, goal = .fleet id →
        ∃ g ∈ (s.neighbours f).filter fun g => s.isMine g.owner, g.id = id) := by
  obtain ⟨hmark, ⟨sub, hsub, htext, -⟩ | ⟨y, hy, htext, -⟩⟩ := facts_of_mem_suggestions hx
  · obtain ⟨goal, hgoal⟩ := transfer_of_check hleads hsub
    obtain ⟨-, -, hreads, hlegal⟩ := facts_of_check hsub
    rw [hgoal] at hreads hlegal
    exact ⟨goal, htext ▸ hreads, .inl hlegal⟩
  · rw [hcomplete, htext] at hmark
    cases behindAmount_of_mem_transfer hleads hf hy with
    | amount n hkind hspells =>
      have hreads : ReadsAs y.text (.partialTransfer fleet n) :=
        .of_spells hspells trivial (by simp [Command.StopsBefore, Reading.OpensTarget])
      rw [hreads.isSubmittable] at hmark
      cases hmark
    | target goal hkind hspells hfleet =>
      have hreads : ReadsAs y.text (.transfer fleet amount goal) :=
        .of_spells hspells trivial trivial
      exact ⟨goal, htext ▸ hreads, .inr hfleet⟩

/-- Right behind the amount both garrisons are offered, whoever owns the
world. -/
theorem garrison_offered (hrest : rest = []) (hf : s.fleet? fleet = some f)
    (hstation : f.station = some here) {goal : Destination}
    (hgoal : goal = .industry ∨ goal = .population) :
    ∃ text, s.Offers line text ∧ ReadsAs text (.transfer fleet amount goal) := by
  have hsound : ∀ t ∈ lineTokens line, t.Sound := fun _ => sound_of_mem_lineTokens
  subst hrest
  have hstage : (Reading.live line).stage = .fleet .transferAmount := by
    rw [Reading.live_stage, hleads.map_kind]
    rfl
  have hcount : (Typed.mk (lineTokens line)).count = 4 := hleads.length_eq
  obtain ⟨x, hx, htext⟩ : ∃ x ∈ s.transferTargets fleet (Typed.mk (lineTokens line)).text,
      x.text = (Typed.mk (lineTokens line)).text ++ goal.wire := by
    simp only [transferTargets, hf, hstation]
    rcases hgoal with rfl | rfl
    · exact ⟨_, List.mem_cons_self, rfl⟩
    · exact ⟨_, List.mem_cons_of_mem _ List.mem_cons_self, rfl⟩
  have hadds := Suggestion.adds_of_text_eq htext goal.toList_wire
  have hspells := hadds.spells (hleads.spells_text hsound)
  refine ⟨x.text, offers_of_mem_staged ?_, .of_spells hspells trivial trivial⟩
  rw [hstage]
  simp only [staged, fleetStage, Typed.number?_of_leads hleads]
  refine Typed.mem_keepExtending_of_text ?_ htext
  unfold transferAmountStage
  rw [if_neg (by omega)]
  exact List.mem_append_left _ hx

end Transfer

/-- Let the player own a fleet that is stationed at a world of the map, and
let a line name the fleet, `T` and an amount that the fleet has. Whatever is
offered as complete is a transfer of that amount, and it is valid for every
goal but the garrisons of a world that is not the player's. Right behind the
amount these are offered too, whoever owns the world. -/
theorem transfer_suggestions {fleet : FleetId} {f : Fleet} {amount : UInt32} {here : WorldId}
    {w : World} {rest : List Token} (hbuilt : s.Built) (hown : s.OwnFleet fleet f)
    (hstation : f.station = some here) (hworld : s.world? here = some w)
    (hamount : 1 ≤ amount ∧ amount ≤ f.ships)
    (hleads : Leads (fleet.words ++ [.sign .transfer, .number amount]) (lineTokens line) rest) :
    (∀ limit, ∀ x ∈ (s.analyze limit line).suggestions, x.complete = true →
      ∃ goal, ReadsAs x.text (.transfer fleet amount goal) ∧
        ((assess s .submission (some (.transfer fleet amount goal))).isValid = true ↔
          (∃ id, goal = .fleet id) ∨ s.isMine w.owner = true)) ∧
    (rest = [] → ∀ goal, goal = .industry ∨ goal = .population →
      ∃ text, s.Offers line text ∧ ReadsAs text (.transfer fleet amount goal)) := by
  have hid := hbuilt.id_of_fleet? hown.1
  have hlegal : ∀ {goal : Destination}, (∀ id, goal = .fleet id →
      ∃ g ∈ (s.neighbours f).filter fun g => s.isMine g.owner, g.id = id) →
      (s.Legal (.transfer fleet amount goal) ↔
        (∃ id, goal = .fleet id) ∨ s.isMine w.owner = true) :=
    fun hgoal => legal_transfer_iff hbuilt.coherent hown hid hstation hworld hamount hgoal
  refine ⟨fun limit x hx hcomplete => ?_, fun hrest goal hgoal => ?_⟩
  · obtain ⟨goal, hreads, hgoal⟩ := transfer_of_complete hleads hown.1 hx hcomplete
    refine ⟨goal, hreads, isValid_assess_submission_iff.trans ?_⟩
    rcases hgoal with hvalid | hgoal
    · -- a goal that was typed passed its check
      refine iff_of_true hvalid ?_
      cases goal with
      | fleet id => exact .inl ⟨id, rfl⟩
      | industry | population => exact (hlegal fun id hid => by cases hid).mp hvalid
    · exact hlegal hgoal
  · exact garrison_offered hleads hrest hown.1 hstation hgoal

/-- A world of somebody else, and one fleet of the player's at it. -/
def foreignPort : Snapshot :=
  ((ofPlayer "Me").addWorld ⟨⟨1⟩, some "Vex", 0, 0, []⟩).addFleet
    ⟨⟨1⟩, some "Me", some ⟨1⟩, 5, 0⟩

theorem built_foreignPort : foreignPort.Built :=
  ((Built.ofPlayer _).addWorld _).addFleet _

/-- With leading zeros in the amount. -/
theorem transfer_suggestions_foreignPort :
    (∀ limit, ∀ x ∈ (foreignPort.analyze limit "f1 t02").suggestions, x.complete = true →
      ∃ goal, ReadsAs x.text (.transfer ⟨1⟩ 2 goal) ∧
        ((assess foreignPort .submission (some (.transfer ⟨1⟩ 2 goal))).isValid = true ↔
          ∃ id, goal = .fleet id)) ∧
      ∃ text, foreignPort.Offers "f1 t02" text ∧ ReadsAs text (.transfer ⟨1⟩ 2 .industry) := by
  have htokens : lineTokens "f1 t02" =
      [⟨.fleetMark, "F", 0⟩, ⟨.number, "1", 1⟩, ⟨.transfer, "T", 3⟩, ⟨.number, "02", 4⟩] := by
    decide +kernel
  have hleads : Leads ((FleetId.mk 1).words ++ [.sign .transfer, .number 2])
      (lineTokens "f1 t02") [] := by
    rw [htokens]
    exact ⟨_, _, rfl, rfl, _, _, rfl, ⟨rfl, by decide⟩, _, _, rfl, rfl, _, _, rfl,
      ⟨rfl, by decide⟩, rfl⟩
  have hfleet : foreignPort.fleet? ⟨1⟩ = some ⟨⟨1⟩, some "Me", some ⟨1⟩, 5, 0⟩ := by
    decide +kernel
  have hworld : foreignPort.world? ⟨1⟩ = some ⟨⟨1⟩, some "Vex", 0, 0, []⟩ := by
    decide +kernel
  obtain ⟨hoffered, hgarrisons⟩ := transfer_suggestions built_foreignPort ⟨hfleet, rfl⟩ rfl hworld
    (by decide) hleads
  refine ⟨fun limit x hx hcomplete => ?_, hgarrisons rfl .industry (.inl rfl)⟩
  obtain ⟨goal, hreads, hvalid⟩ := hoffered limit x hx hcomplete
  have hforeign : ¬ foreignPort.isMine (some "Vex") = true := by decide
  exact ⟨goal, hreads, by rw [hvalid, or_iff_left hforeign]⟩

/-- A garrison that is offered as complete and is not valid. -/
theorem not_valid_garrison_foreignPort :
    ∃ x ∈ (foreignPort.analyze 10 "F1T2").suggestions, x.complete = true ∧ x.text = "F1T2I" ∧
      (assess foreignPort .submission (Reading.final x.text).command).isValid = false := by
  decide +kernel

/-! ## Builds -/

section Build

variable {world : WorldId} {amount : UInt32} {rest : List Token}
  (hleads : Leads (world.words ++ [.sign .build, .number amount]) (lineTokens line) rest)
include hleads

/-- What the stage finds behind the amount of a build. -/
theorem behindAmount_of_mem_build {limit : Nat}
    (h : x ∈ s.staged limit line ⟨lineTokens line⟩ (Reading.live line).stage) :
    BehindAmount (world.words ++ [.sign .build]) amount
      ((s.fleetsAt world).filter fun g => s.isMine g.owner) x := by
  have hsound : ∀ t ∈ lineTokens line, t.Sound := fun _ => sound_of_mem_lineTokens
  have hn : (Typed.mk (lineTokens line)).number? 1 = some world.number :=
    Typed.number?_of_mark hleads
  cases rest with
  | nil =>
    have hstage : (Reading.live line).stage = .world .buildAmount := by
      rw [Reading.live_stage, hleads.map_kind]
      rfl
    rw [hstage] at h
    simp only [staged, worldStage, hn] at h
    rw [buildAmountStage_eq] at h
    exact behindAmount_of_mem_amountStage hleads rfl hsound rfl
      (fun _ => offersShips_of_mem_buildTargets) (Typed.mem_keepExtending h).1
  | cons t rest =>
    have hstage : (Reading.live line).stage = .world .buildTarget := by
      rw [Reading.live_stage, hleads.map_kind]
      rfl
    rw [hstage] at h
    simp only [staged, worldStage, hn] at h
    exact behindAmount_of_offersShips hleads rfl hsound
      (offersShips_of_mem_buildTargets (Typed.mem_keepExtending h).1)

/-- What the stage finds is an amount, which leaves the order unfinished, or
a build for a goal that the world may build for. -/
theorem build_of_mem_staged (hcoherent : s.Coherent) {limit : Nat}
    (h : x ∈ s.staged limit line ⟨lineTokens line⟩ (Reading.live line).stage) :
    (x.kind = .amount ∧ isSubmittable x.text = false) ∨
      ∃ goal, ReadsAs x.text (.build world amount goal) ∧ s.TakesBuilt world goal := by
  cases behindAmount_of_mem_build hleads h with
  | amount n hkind hspells =>
    have hreads : ReadsAs x.text (.partialBuild world n) :=
      .of_spells hspells trivial (by simp [Command.StopsBefore, Reading.OpensTarget])
    exact .inl ⟨hkind, hreads.isSubmittable⟩
  | target goal hkind hspells hfleet =>
    refine .inr ⟨goal, .of_spells hspells trivial trivial, ?_⟩
    cases goal with
    | industry | population => trivial
    | fleet id =>
      obtain ⟨g, hg, rfl⟩ := hfleet id rfl
      obtain ⟨hat, hmine⟩ := List.mem_filter.mp hg
      obtain ⟨hfound, hstation⟩ := hcoherent.fleetsAt hat
      exact ⟨g, ⟨hfound, isMine_iff.mp hmine⟩, hstation⟩

theorem build_suggestions (hcoherent : s.Coherent) {w : World} (hown : s.OwnWorld world w)
    (hamount : 1 ≤ amount ∧ amount ≤ w.industry) {limit : Nat}
    (hx : x ∈ (s.analyze limit line).suggestions) :
    (x.complete = true → s.Accepts x.text) ∧
      (x.kind = .target → ∃ goal, ReadsAs x.text (.build world amount goal) ∧
        ∀ id, goal = .fleet id → ∃ g, s.OwnFleet id g ∧ g.station = some world) := by
  obtain ⟨hmark, ⟨sub, hsub, htext, hkind⟩ | ⟨y, hy, htext, hkind⟩⟩ := facts_of_mem_suggestions hx
  · refine ⟨fun _ => htext ▸ accepts_of_check hsub, fun htarget => ?_⟩
    rw [hkind] at htarget
    cases htarget
  · rw [htext] at hmark ⊢
    rw [hkind]
    obtain ⟨hamounts, hpartial⟩ | ⟨goal, hreads, htakes⟩ :=
      build_of_mem_staged hleads hcoherent hy
    · refine ⟨fun hcomplete => ?_, fun htarget => ?_⟩
      · rw [hcomplete, hpartial] at hmark
        cases hmark
      · rw [hamounts] at htarget
        cases htarget
    · have hlegal : s.Legal (.build world amount goal) := ⟨w, hown, hamount, htakes⟩
      refine ⟨fun _ => accepts_of_reads hreads hlegal, fun _ => ⟨goal, hreads, ?_⟩⟩
      rintro id rfl
      exact htakes

end Build

/-! ## Attacks -/

section Attack

variable {fleet : FleetId} {f : Fleet} {here : WorldId} {rest : List Token}
  (hleads : Leads (fleet.words ++ [.sign .attack]) (lineTokens line) rest)
include hleads

/-- Whatever stands behind the letter, the stage finds targets of the
attack. -/
theorem mem_attackTargets_of_staged {limit : Nat}
    (h : x ∈ s.staged limit line ⟨lineTokens line⟩ (Reading.live line).stage) :
    x ∈ s.attackTargets fleet ((Typed.mk (lineTokens line)).upTo 3) := by
  have hn := Typed.number?_of_leads hleads
  cases rest with
  | nil =>
    have hstage : (Reading.live line).stage = .fleet .attackType := by
      rw [Reading.live_stage, hleads.map_kind]
      rfl
    rw [hstage] at h
    simp only [staged, fleetStage, hn] at h
    exact (Typed.mem_keepExtending h).1
  | cons t rest =>
    have hstage : (Reading.live line).stage = .fleet .attackTarget := by
      rw [Reading.live_stage, hleads.map_kind]
      rfl
    rw [hstage] at h
    simp only [staged, fleetStage, hn] at h
    exact (Typed.mem_keepExtending h).1

omit hleads in
/-- A target of an attack is accepted as an attack of the fleet, and a fleet
that is fired at is another one, found at the world, and not the
player's. -/
theorem attack_of_mem_attackTargets (hcoherent : s.Coherent) (hf : s.fleet? fleet = some f)
    (hid : f.id = fleet) (hstation : f.station = some here) {ts : List Token}
    (hfleet : Leads (fleet.words ++ [.sign .attack]) ts rest) (hsound : ∀ t ∈ ts, t.Sound)
    (h : x ∈ s.attackTargets fleet ((Typed.mk ts).upTo 3)) :
    ReadsAs x.text (.ambush fleet) ∨ (∃ r, ReadsAs x.text (.fireAtWorld fleet r)) ∨
      ∃ id g, ReadsAs x.text (.fireAtFleet fleet id) ∧ id ≠ fleet ∧ s.fleet? id = some g ∧
        g.station = some here ∧ s.isMine g.owner = false := by
  obtain ⟨-, hadds | ⟨r, hadds⟩ | ⟨f', g, hf', hnear, hforeign, hadds⟩⟩ :=
    facts_of_mem_attackTargets h
  · refine .inl (.of_spells (hfleet.spells_of_adds hsound hadds) trivial ?_)
    simp [Command.StopsBefore, Reading.OpensTarget]
  · exact .inr (.inl ⟨r, .of_spells (hfleet.spells_of_adds hsound hadds) trivial trivial⟩)
  · obtain rfl : f = f' := Option.some.inj (hf.symm.trans hf')
    obtain ⟨hother, hfound, here', hhere, hgstation⟩ := hcoherent.neighbours hnear
    obtain rfl : here = here' := Option.some.inj (hstation.symm.trans hhere)
    have hspells := hfleet.spells_of_adds hsound hadds
    exact .inr (.inr ⟨g.id, g, .of_spells hspells trivial trivial, hid ▸ hother, hfound,
      hgstation, hforeign⟩)

theorem attack_suggestions (hcoherent : s.Coherent) (hown : s.OwnFleet fleet f)
    (hid : f.id = fleet) (hships : 0 < f.ships) (hstation : f.station = some here) {w : World}
    (hworld : s.world? here = some w) {limit : Nat}
    (hx : x ∈ (s.analyze limit line).suggestions) :
    (x.complete = true → s.Accepts x.text) ∧
      (x.kind = .target →
        ReadsAs x.text (.ambush fleet) ∨ (∃ r, ReadsAs x.text (.fireAtWorld fleet r)) ∨
          ∃ id g, ReadsAs x.text (.fireAtFleet fleet id) ∧ id ≠ fleet ∧ s.fleet? id = some g ∧
            g.station = some here ∧ s.isMine g.owner = false) := by
  obtain ⟨-, ⟨sub, hsub, htext, hkind⟩ | ⟨y, hy, htext, -⟩⟩ := facts_of_mem_suggestions hx
  · refine ⟨fun _ => htext ▸ accepts_of_check hsub, fun htarget => ?_⟩
    rw [hkind] at htarget
    cases htarget
  · rw [htext]
    have hattack := attack_of_mem_attackTargets hcoherent hown.1 hid hstation hleads
      (fun _ => sound_of_mem_lineTokens) (mem_attackTargets_of_staged hleads hy)
    refine ⟨fun _ => ?_, fun _ => hattack⟩
    obtain hreads | ⟨r, hreads⟩ | ⟨id, g, hreads, hother, hfound, hgstation, -⟩ := hattack
    · exact accepts_of_reads hreads ⟨f, hown, here, hstation⟩
    · exact accepts_of_reads hreads ⟨f, hown, hships, here, w, hstation, hworld⟩
    · exact accepts_of_reads hreads ⟨f, hown, hships, hother, g, hfound, here, hstation, hgstation⟩

end Attack

/-- Behind the amount of a build that the player's world can pay for, and
behind the letter of an attack of a fleet of the player that has ships and is
stationed at a world of the map, whatever is offered as complete is accepted.
What is offered as a target is a build for the world, with a fleet of the
player at it if any is named; or an attack of the fleet, on another fleet
at its world that is not the player's if any is named. -/
theorem build_attack_suggestions (hbuilt : s.Built) :
    (∀ {world : WorldId} {w : World} {amount : UInt32} {line : String} {rest : List Token},
      s.OwnWorld world w → 1 ≤ amount ∧ amount ≤ w.industry →
      Leads (world.words ++ [.sign .build, .number amount]) (lineTokens line) rest →
      ∀ limit, ∀ x ∈ (s.analyze limit line).suggestions,
        (x.complete = true → s.Accepts x.text) ∧
        (x.kind = .target → ∃ goal, ReadsAs x.text (.build world amount goal) ∧
          ∀ id, goal = .fleet id → ∃ g, s.OwnFleet id g ∧ g.station = some world)) ∧
    ∀ {fleet : FleetId} {f : Fleet} {here : WorldId} {w : World} {line : String}
      {rest : List Token}, s.OwnFleet fleet f → 0 < f.ships → f.station = some here →
      s.world? here = some w → Leads (fleet.words ++ [.sign .attack]) (lineTokens line) rest →
      ∀ limit, ∀ x ∈ (s.analyze limit line).suggestions,
        (x.complete = true → s.Accepts x.text) ∧
        (x.kind = .target →
          ReadsAs x.text (.ambush fleet) ∨ (∃ r, ReadsAs x.text (.fireAtWorld fleet r)) ∨
            ∃ id g, ReadsAs x.text (.fireAtFleet fleet id) ∧ id ≠ fleet ∧
              s.fleet? id = some g ∧ g.station = some here ∧ s.isMine g.owner = false) := by
  constructor
  · intro world w amount line rest hown hamount hleads limit x hx
    exact build_suggestions hleads hbuilt.coherent hown hamount hx
  · intro fleet f here w line rest hown hships hstation hworld hleads limit x hx
    exact attack_suggestions hleads hbuilt.coherent hown (hbuilt.id_of_fleet? hown.1) hships
      hstation hworld hx

/-- On the demonstration map: a build with an `F` that waits for its number,
and an attack without a target. -/
theorem build_attack_suggestions_demo :
    (∀ limit, ∀ x ∈ (demo.analyze limit "w1 b05 f").suggestions, x.complete = true →
      demo.Accepts x.text) ∧
    (∃ x ∈ (demo.analyze 10 "w1 b05 f").suggestions, x.text = "W1B05F2" ∧
      demo.Accepts x.text) ∧
    ∀ limit, ∀ x ∈ (demo.analyze limit "f1 a").suggestions, x.complete = true →
      demo.Accepts x.text := by
  have hworld : demo.world? ⟨1⟩ = some ⟨⟨1⟩, some "Commander", 12, 40, [⟨2⟩, ⟨3⟩]⟩ := by
    decide +kernel
  have hfleet : demo.fleet? ⟨1⟩ = some ⟨⟨1⟩, some "Commander", some ⟨1⟩, 14, 0⟩ := by
    decide +kernel
  have hmine : some "Commander" = some demo.player := by decide +kernel
  have hbuildTokens : lineTokens "w1 b05 f" =
      [⟨.worldMark, "W", 0⟩, ⟨.number, "1", 1⟩, ⟨.build, "B", 3⟩, ⟨.number, "05", 4⟩,
        ⟨.unknown, "F", 7⟩] := by
    decide +kernel
  have hbuild : Leads ((WorldId.mk 1).words ++ [.sign .build, .number 5]) (lineTokens "w1 b05 f")
      [⟨.unknown, "F", 7⟩] := by
    rw [hbuildTokens]
    exact ⟨_, _, rfl, rfl, _, _, rfl, ⟨rfl, by decide⟩, _, _, rfl, rfl, _, _, rfl,
      ⟨rfl, by decide⟩, rfl⟩
  have hattackTokens : lineTokens "f1 a" =
      [⟨.fleetMark, "F", 0⟩, ⟨.number, "1", 1⟩, ⟨.attack, "A", 3⟩] := by
    decide +kernel
  have hattack : Leads ((FleetId.mk 1).words ++ [.sign .attack]) (lineTokens "f1 a") [] := by
    rw [hattackTokens]
    exact ⟨_, _, rfl, rfl, _, _, rfl, ⟨rfl, by decide⟩, _, _, rfl, rfl, rfl⟩
  obtain ⟨hbuilds, hattacks⟩ := build_attack_suggestions built_demo
  have hbuilds := hbuilds ⟨hworld, hmine⟩ (by decide) hbuild
  have hoffered : ∃ x ∈ (demo.analyze 10 "w1 b05 f").suggestions, x.text = "W1B05F2" ∧
      x.complete = true := by
    decide +kernel
  obtain ⟨x, hx, htext, hcomplete⟩ := hoffered
  exact ⟨fun limit x hx => (hbuilds limit x hx).1, ⟨x, hx, htext, (hbuilds 10 x hx).1 hcomplete⟩,
    fun limit x hx => (hattacks ⟨hfleet, hmine⟩ (by decide) rfl hworld hattack limit x hx).1⟩

end Snapshot

end FleetOrders
