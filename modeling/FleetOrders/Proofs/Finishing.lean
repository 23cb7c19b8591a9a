/-
FleetOrders.Proofs.Finishing — which suggestions can be typed on to an
order.

A suggestion is of use when something can be typed behind it that makes it
a complete command.

* `Opening` — words that a complete order to a fleet or a world starts
  with. A text that spells such words can be finished
  (`Opening.finishable`).
* `AmountOffer` — what is offered where an amount is due: amounts, or
  targets behind whatever was typed in the place of one.
* `AmountSpoiled` — in the place of an amount stands something else.

At a stage that takes no amount every suggestion can be finished
(`Snapshot.finishable_of_mem_staged`), and elsewhere when the amount is not
spoiled (`AmountOffer.finishable`).
-/
import FleetOrders.Proofs.SuggestionTexts

namespace FleetOrders

/-- Something can be typed behind the text so that the line is accepted for
sending as a complete command. -/
def Finishable (text : String) : Prop :=
  ∃ more c, (Reading.final (text ++ more)).error = none ∧
    (Reading.final (text ++ more)).command = some c ∧ c.isComplete = true

/-! ## Openings of orders -/

/-- Words that a complete order to a fleet or a world starts with. -/
def Opening (ws : List Word) : Prop :=
  ∃ c : Command, ws <+: c.words ∧ Apart c.words ∧ c.isComplete = true ∧ c.WellFormed

theorem Opening.finishable {ws : List Word} (h : Opening ws) {text : String}
    (hs : Spells ws text.toList) : Finishable text := by
  obtain ⟨c, ⟨vs, hvs⟩, hapart, hcomplete, hformed⟩ := h
  have hall : Spells c.words (text ++ String.ofList (vs.flatMap Word.chars)).toList := by
    rw [← hvs, String.toList_append, String.toList_ofList]
    exact hs.append (spells_chars vs)
  obtain ⟨herror, hcommand⟩ := Reading.final_of_spells hall hapart hformed.stopsBefore_end
  exact ⟨_, c, herror, hcommand, hcomplete⟩

theorem Opening.of_isPrefix {vs ws : List Word} (h : Opening ws) (hpre : vs <+: ws) :
    Opening vs := by
  obtain ⟨c, hws, hc⟩ := h
  exact ⟨c, hpre.trans hws, hc⟩

theorem Opening.of_append {vs ws : List Word} (h : Opening (vs ++ ws)) : Opening vs :=
  h.of_isPrefix (List.prefix_append vs ws)

theorem opening_move (f : FleetId) {path : List WorldId} (hne : path ≠ []) :
    Opening (f.words ++ path.flatMap WorldId.words) :=
  ⟨.move f path, List.prefix_rfl, Command.apart_words nofun nofun nofun, rfl, hne⟩

theorem opening_transfer (f : FleetId) (n : UInt32) (d : Destination) :
    Opening (f.words ++ [.sign .transfer, .number n] ++ d.words) :=
  ⟨.transfer f n d, List.prefix_rfl, Command.apart_words nofun nofun nofun, rfl, trivial⟩

theorem opening_fireAtWorld (f : FleetId) (r : Resource) :
    Opening (f.words ++ [.sign .attack] ++ r.words) :=
  ⟨.fireAtWorld f r, List.prefix_rfl, Command.apart_words nofun nofun nofun, rfl, trivial⟩

theorem opening_fireAtFleet (f g : FleetId) : Opening (f.words ++ [.sign .attack] ++ g.words) :=
  ⟨.fireAtFleet f g, List.prefix_rfl, Command.apart_words nofun nofun nofun, rfl, trivial⟩

theorem opening_build (w : WorldId) (n : UInt32) (d : Destination) :
    Opening (w.words ++ [.sign .build, .number n] ++ d.words) :=
  ⟨.build w n d, List.prefix_rfl, Command.apart_words nofun nofun nofun, rfl, trivial⟩

/-- A fleet goes on with the letter of any of its actions. -/
theorem opening_fleetAction (f : FleetId) {s : Sign}
    (hs : s = .worldMark ∨ s = .transfer ∨ s = .attack) : Opening (f.words ++ [.sign s]) := by
  rcases hs with rfl | rfl | rfl
  · have hmove : Opening (f.words ++ [WorldId.mk 0].flatMap WorldId.words) :=
      opening_move f (List.cons_ne_nil _ _)
    exact hmove.of_isPrefix ⟨[.number 0], rfl⟩
  · exact (opening_transfer f 0 .industry).of_isPrefix ⟨[.number 0, .sign .industry], rfl⟩
  · exact (opening_fireAtWorld f .industry).of_append

theorem opening_buildAction (w : WorldId) : Opening (w.words ++ [.sign .build]) :=
  (opening_build w 0 .industry).of_isPrefix ⟨[.number 0, .sign .industry], rfl⟩

/-! ## The tokens at a stage -/

/-- What a stage of an order to a fleet says of the tokens: how many there
are, and which sign is the third. -/
def FleetStage.Describes (count : Nat) (third : Option TokenKind) : FleetStage → Prop
  | .fleetId | .action => True
  | .movePath => third = some .worldMark
  | .transferAmount => third = some .transfer ∧ 3 ≤ count ∧ count ≤ 4
  | .transferTarget => third = some .transfer ∧ 5 ≤ count
  | .attackType | .attackTarget => third = some .attack

theorem FleetStage.describes_ofThird (count : Nat) (third : Option TokenKind) :
    (ofThird count third).Describes count third := by
  unfold ofThird
  split
  · trivial
  split
  · rfl
  · split
    · exact ⟨rfl, by omega, ‹_›⟩
    · exact ⟨rfl, by omega⟩
  · split <;> rfl
  · trivial

/-- What a stage of an order to a world says of the tokens. -/
def WorldStage.Describes (count : Nat) (third : Option TokenKind) : WorldStage → Prop
  | .worldId | .action => True
  | .buildAmount => third = some .build ∧ 3 ≤ count ∧ count ≤ 4
  | .buildTarget => third = some .build ∧ 5 ≤ count

theorem WorldStage.describes_ofThird (count : Nat) (third : Option TokenKind) :
    (ofThird count third).Describes count third := by
  unfold ofThird
  split
  · trivial
  split
  · split
    · exact ⟨rfl, by omega, ‹_›⟩
    · exact ⟨rfl, by omega⟩
  · trivial

theorem Stage.fleet_facts {kinds : List TokenKind} {stage : FleetStage}
    (h : ofKinds kinds = .fleet stage) :
    kinds.head? = some .fleetMark ∧ stage.Describes kinds.length kinds[2]? := by
  unfold ofKinds at h
  split at h
  case h_2 more =>
    injection h with h
    exact ⟨rfl, h ▸ FleetStage.describes_ofThird _ _⟩
  all_goals cases h

theorem Stage.world_facts {kinds : List TokenKind} {stage : WorldStage}
    (h : ofKinds kinds = .world stage) :
    kinds.head? = some .worldMark ∧ stage.Describes kinds.length kinds[2]? := by
  unfold ofKinds at h
  split at h
  case h_3 more =>
    injection h with h
    exact ⟨rfl, h ▸ WorldStage.describes_ofThird _ _⟩
  all_goals cases h

/-! ## Amounts and what follows them -/

/-- At these stages an amount belongs in the fourth place. -/
def Stage.TakesAmount : Stage → Prop
  | .fleet .transferAmount | .fleet .transferTarget | .world .buildAmount
  | .world .buildTarget => True
  | _ => False

/-- In the place of an amount stands something else: no number, or one of
more than 32 bits. -/
def AmountSpoiled (line : String) : Prop :=
  (Reading.live line).stage.TakesAmount ∧
    ∃ t, (lineTokens line)[3]? = some t ∧ ∀ n, ¬ (Word.number n).Fits t

/-- What is offered where an amount is due: an amount behind the first
three tokens, or, when there is a fourth, a target behind the first
four. -/
inductive AmountOffer (t : Typed) (x : Suggestion) : Prop where
  | amount (n : UInt32) (hadds : Adds (t.upTo 3) [.number n] x)
      (hhead : Text.isHeadOf t.text x.text = true)
  | target (d : Destination) (hadds : Adds (t.upTo 4) d.words x) (hcount : 4 ≤ t.count)

namespace Typed

variable {t : Typed} {x : Suggestion}

theorem upTo_of_le {n : Nat} (h : t.count ≤ n) : t.upTo n = t.text := by
  rw [text, upTo, upTo, count, List.take_of_length_le h, List.take_length]

theorem mem_keepExtending {found : List Suggestion} (h : x ∈ t.keepExtending found) :
    x ∈ found ∧ Text.isHeadOf t.text x.text = true :=
  List.mem_filter.mp h

theorem adds_of_mem_longerAmounts {available : UInt32} (h : x ∈ t.longerAmounts available) :
    ∃ n : UInt32, Adds (t.upTo 3) [.number n] x :=
  Suggestion.adds_of_mem_amounts (Suggestion.mem_longerThan h).1

end Typed

namespace Snapshot

variable {s : Snapshot} {x : Suggestion} {t : Typed}

/-- The form of both stages of an amount: behind three tokens amounts are
offered, and behind four the targets, and amounts that go on from the
fourth. -/
def amountStage (t : Typed) (available : Option UInt32) (targets : List Suggestion) :
    List Suggestion :=
  if t.count < 4 then
    match available with
    | some n => Suggestion.amounts t.text n
    | none => []
  else
    targets ++
      match available with
      | some n => t.longerAmounts n
      | none => []

theorem transferAmountStage_eq (fleet : FleetId) (t : Typed) :
    s.transferAmountStage fleet t =
      amountStage t ((s.fleet? fleet).map Fleet.ships) (s.transferTargets fleet t.text) := by
  unfold transferAmountStage amountStage
  cases s.fleet? fleet <;> rfl

theorem buildAmountStage_eq (world : WorldId) (t : Typed) :
    s.buildAmountStage world t =
      amountStage t ((s.world? world).map World.industry) (s.buildTargets world t.text) := by
  unfold buildAmountStage amountStage
  cases s.world? world <;> rfl

theorem amountOffer_of_mem_amountStage {available : Option UInt32} {targets : List Suggestion}
    (hcount : 3 ≤ t.count ∧ t.count ≤ 4)
    (htargets : ∀ y ∈ targets, ∃ d : Destination, Adds t.text d.words y)
    (h : x ∈ t.keepExtending (amountStage t available targets)) : AmountOffer t x := by
  obtain ⟨h, hhead⟩ := Typed.mem_keepExtending h
  unfold amountStage at h
  split at h
  · rw [← Typed.upTo_of_le (show t.count ≤ 3 by omega)] at h
    split at h
    · obtain ⟨n, hadds⟩ := Suggestion.adds_of_mem_amounts h
      exact .amount n hadds hhead
    · cases h
  · rcases List.mem_append.mp h with h | h
    · obtain ⟨d, hadds⟩ := htargets x h
      rw [← Typed.upTo_of_le hcount.2] at hadds
      exact .target d hadds (by omega)
    · split at h
      · obtain ⟨n, hadds⟩ := Typed.adds_of_mem_longerAmounts h
        exact .amount n hadds hhead
      · cases h

/-- Where an order to a fleet takes an amount, the fleet and `T` have been
typed, and an amount or a target is offered. -/
theorem amountOffer_of_mem_fleetStage {ts : List Token} {stage : FleetStage}
    (hstage : Stage.ofKinds (ts.map Token.kind) = .fleet stage)
    (htakes : (Stage.fleet stage).TakesAmount) (h : x ∈ s.fleetStage stage ⟨ts⟩) :
    (∃ f : FleetId, Leads (f.words ++ [.sign .transfer]) ts (ts.drop 3)) ∧ AmountOffer ⟨ts⟩ x := by
  obtain ⟨hmark, hdescribes⟩ := Stage.fleet_facts hstage
  rw [List.length_map] at hdescribes
  cases hn : (Typed.mk ts).number? 1 with
  | none =>
    cases stage with
    | transferAmount | transferTarget => simp [fleetStage, hn] at h
    | _ => exact htakes.elim
  | some n =>
    have hfleet : Leads (FleetId.words ⟨n⟩) ts (ts.drop 2) := leads_mark (s := .fleetMark) hmark hn
    cases stage with
    | transferAmount =>
      simp only [fleetStage, hn] at h
      obtain ⟨hthird, hcount⟩ := hdescribes
      rw [transferAmountStage_eq] at h
      exact ⟨⟨⟨n⟩, hfleet.snoc_sign (s := .transfer) hthird⟩,
        amountOffer_of_mem_amountStage hcount (fun _ => adds_of_mem_transferTargets) h⟩
    | transferTarget =>
      simp only [fleetStage, hn] at h
      obtain ⟨hthird, hcount⟩ := hdescribes
      obtain ⟨d, hadds⟩ := adds_of_mem_transferTargets (Typed.mem_keepExtending h).1
      exact ⟨⟨⟨n⟩, hfleet.snoc_sign (s := .transfer) hthird⟩,
        .target d hadds (show 4 ≤ ts.length by omega)⟩
    | _ => exact htakes.elim

/-- Where an order to a world takes an amount, the world and `B` have been
typed, and an amount or a target is offered. -/
theorem amountOffer_of_mem_worldStage {ts : List Token} {stage : WorldStage}
    (hstage : Stage.ofKinds (ts.map Token.kind) = .world stage)
    (htakes : (Stage.world stage).TakesAmount) (h : x ∈ s.worldStage stage ⟨ts⟩) :
    (∃ w : WorldId, Leads (w.words ++ [.sign .build]) ts (ts.drop 3)) ∧ AmountOffer ⟨ts⟩ x := by
  obtain ⟨hmark, hdescribes⟩ := Stage.world_facts hstage
  rw [List.length_map] at hdescribes
  cases hn : (Typed.mk ts).number? 1 with
  | none =>
    cases stage with
    | buildAmount | buildTarget => simp [worldStage, hn] at h
    | _ => exact htakes.elim
  | some n =>
    have hworld : Leads (WorldId.words ⟨n⟩) ts (ts.drop 2) := leads_mark (s := .worldMark) hmark hn
    cases stage with
    | buildAmount =>
      simp only [worldStage, hn] at h
      obtain ⟨hthird, hcount⟩ := hdescribes
      rw [buildAmountStage_eq] at h
      exact ⟨⟨⟨n⟩, hworld.snoc_sign (s := .build) hthird⟩,
        amountOffer_of_mem_amountStage hcount (fun _ => adds_of_mem_buildTargets) h⟩
    | buildTarget =>
      simp only [worldStage, hn] at h
      obtain ⟨hthird, hcount⟩ := hdescribes
      obtain ⟨d, hadds⟩ := adds_of_mem_buildTargets (Typed.mem_keepExtending h).1
      exact ⟨⟨⟨n⟩, hworld.snoc_sign (s := .build) hthird⟩,
        .target d hadds (show 4 ≤ ts.length by omega)⟩
    | _ => exact htakes.elim

end Snapshot

/-! ## Suggestions that can be finished -/

/-- The first three words of an order with an amount. -/
def AmountHead (vs : List Word) : Prop :=
  (∃ f : FleetId, vs = f.words ++ [.sign .transfer]) ∨ ∃ w : WorldId, vs = w.words ++ [.sign .build]

theorem AmountHead.opening {vs : List Word} (h : AmountHead vs) (n : UInt32) (d : Destination) :
    Opening (vs ++ [.number n] ++ d.words) := by
  rcases h with ⟨f, rfl⟩ | ⟨w, rfl⟩
  · exact opening_transfer f n d
  · exact opening_build w n d

theorem AmountHead.length_eq {vs : List Word} (h : AmountHead vs) : vs.length = 3 := by
  rcases h with ⟨f, rfl⟩ | ⟨w, rfl⟩ <;> rfl

/-- An amount that is offered can be finished; a target can when an amount
stands before it. -/
theorem AmountOffer.finishable {ts : List Token} {x : Suggestion} {vs : List Word}
    (h : AmountOffer ⟨ts⟩ x) (hhead : AmountHead vs) (hleads : Leads vs ts (ts.drop 3))
    (hsound : ∀ t ∈ ts, t.Sound)
    (hamount : ∀ t, ts[3]? = some t → ∃ n, (Word.number n).Fits t) : Finishable x.text := by
  cases h with
  | amount n hadds =>
    rw [← hhead.length_eq] at hadds
    exact (hhead.opening n .industry).of_append.finishable (hleads.spells_of_adds hsound hadds)
  | target d hadds hcount =>
    obtain ⟨t, ht⟩ : ∃ t, ts[3]? = some t :=
      ⟨ts[3], List.getElem?_eq_getElem (show 3 < ts.length from hcount)⟩
    obtain ⟨n, hfits⟩ := hamount t ht
    have hlength : (vs ++ [Word.number n]).length = 4 := by
      rw [List.length_append, hhead.length_eq]
      rfl
    rw [← hlength] at hadds
    exact (hhead.opening n d).finishable ((hleads.snoc ht hfits).spells_of_adds hsound hadds)

namespace Snapshot

variable {s : Snapshot} {x : Suggestion} {ts : List Token}

theorem finishable_ofFleet (f : Fleet) : Finishable (Suggestion.ofFleet f).text :=
  (opening_fleetAction f.id (.inl rfl)).of_append.finishable f.id.spells_text

theorem finishable_suggestWorld (w : World) : Finishable (s.suggestWorld w).text :=
  (opening_buildAction w.id).of_append.finishable w.id.spells_text

theorem finishable_of_mem_fleetNumbers {t : Typed} (h : x ∈ s.fleetNumbers t) :
    Finishable x.text := by
  unfold fleetNumbers at h
  rcases List.mem_append.mp (Typed.mem_keepExtending h).1 with h | h
  · obtain ⟨f, -, rfl⟩ := List.mem_map.mp h
    exact finishable_ofFleet f
  · split at h
    · cases h
    · rename_i n hn
      split at h
      · obtain ⟨sign, hsign, hadds⟩ := Suggestion.adds_of_mem_fleetActions h
        exact (opening_fleetAction ⟨n⟩ hsign).finishable (hadds.spells (FleetId.mk n).spells_text)
      · cases h

theorem finishable_of_mem_worldNumbers {t : Typed} (h : x ∈ s.worldNumbers t) :
    Finishable x.text := by
  unfold worldNumbers at h
  rcases List.mem_append.mp (Typed.mem_keepExtending h).1 with h | h
  · obtain ⟨w, -, rfl⟩ := List.mem_map.mp h
    exact finishable_suggestWorld w
  · split at h
    · cases h
    · rename_i n hn
      split at h
      · obtain rfl := List.mem_singleton.mp h
        exact (opening_buildAction ⟨n⟩).finishable
          ((Suggestion.adds_buildAction _).spells (WorldId.mk n).spells_text)
      · cases h

theorem finishable_of_mem_fleetActionStage {fleet : FleetId}
    (hfleet : Leads fleet.words ts (ts.drop 2)) (hsound : ∀ t ∈ ts, t.Sound)
    (h : x ∈ s.fleetActionStage fleet ⟨ts⟩) : Finishable x.text := by
  have hactions : x ∈ Suggestion.fleetActions ((Typed.mk ts).upTo 2) → Finishable x.text := by
    intro h
    obtain ⟨sign, hsign, hadds⟩ := Suggestion.adds_of_mem_fleetActions h
    exact (opening_fleetAction fleet hsign).finishable (hfleet.spells_of_adds hsound hadds)
  unfold fleetActionStage at h
  split at h
  · split at h
    · obtain ⟨w, -, hadds⟩ := adds_of_mem_hopsFrom h
      have hmove : Opening (fleet.words ++ [w].flatMap WorldId.words) :=
        opening_move fleet (List.cons_ne_nil w [])
      exact hmove.finishable (hfleet.spells_of_adds hsound hadds)
    · exact hactions h
  · exact hactions h

/-- An order to a fleet takes no amount at this stage: whatever is offered
can be finished. -/
theorem finishable_of_mem_fleetStage {stage : FleetStage}
    (hstage : Stage.ofKinds (ts.map Token.kind) = .fleet stage) (hsound : ∀ t ∈ ts, t.Sound)
    (htakes : ¬ (Stage.fleet stage).TakesAmount) (h : x ∈ s.fleetStage stage ⟨ts⟩) :
    Finishable x.text := by
  obtain ⟨hmark, hdescribes⟩ := Stage.fleet_facts hstage
  cases hn : (Typed.mk ts).number? 1 with
  | none =>
    cases stage with
    | fleetId => exact finishable_of_mem_fleetNumbers h
    | _ => simp [fleetStage, hn] at h
  | some n =>
    have hfleet : Leads (FleetId.words ⟨n⟩) ts (ts.drop 2) := leads_mark (s := .fleetMark) hmark hn
    cases stage with
    | fleetId => exact finishable_of_mem_fleetNumbers h
    | action =>
      simp only [fleetStage, hn] at h
      exact finishable_of_mem_fleetActionStage hfleet hsound h
    | movePath =>
      simp only [fleetStage, hn] at h
      obtain ⟨-, path, -, w, -, -, -, -, hspells⟩ :=
        spells_of_mem_pathStage hfleet hsound (Typed.mem_keepExtending h).1
      exact (opening_move ⟨n⟩ (by simp)).finishable hspells
    | attackType | attackTarget =>
      simp only [fleetStage, hn] at h
      have hattack := hfleet.snoc_sign (s := .attack) hdescribes
      rcases adds_of_mem_attackTargets (Typed.mem_keepExtending h).1 with
        hadds | ⟨r, hadds⟩ | ⟨g, hadds⟩
      · exact (opening_fireAtWorld ⟨n⟩ .industry).of_append.finishable
          (hattack.spells_of_adds hsound hadds)
      · exact (opening_fireAtWorld ⟨n⟩ r).finishable (hattack.spells_of_adds hsound hadds)
      · exact (opening_fireAtFleet ⟨n⟩ g).finishable (hattack.spells_of_adds hsound hadds)
    | transferAmount | transferTarget => exact absurd trivial htakes

/-- So it is with an order to a world. -/
theorem finishable_of_mem_worldStage {stage : WorldStage}
    (hstage : Stage.ofKinds (ts.map Token.kind) = .world stage) (hsound : ∀ t ∈ ts, t.Sound)
    (htakes : ¬ (Stage.world stage).TakesAmount) (h : x ∈ s.worldStage stage ⟨ts⟩) :
    Finishable x.text := by
  obtain ⟨hmark, -⟩ := Stage.world_facts hstage
  cases hn : (Typed.mk ts).number? 1 with
  | none =>
    cases stage with
    | worldId => exact finishable_of_mem_worldNumbers h
    | _ => simp [worldStage, hn] at h
  | some n =>
    cases stage with
    | worldId => exact finishable_of_mem_worldNumbers h
    | action =>
      have hworld : Leads (WorldId.words ⟨n⟩) ts (ts.drop 2) :=
        leads_mark (s := .worldMark) hmark hn
      simp only [worldStage, hn] at h
      obtain rfl := List.mem_singleton.mp (Typed.mem_keepExtending h).1
      exact (opening_buildAction ⟨n⟩).finishable
        (hworld.spells_of_adds hsound (Suggestion.adds_buildAction _))
    | buildAmount | buildTarget => exact absurd trivial htakes

/-! ## Lines that name no order yet -/

theorem finishable_joinKeyword : Finishable Suggestion.joinKeyword.text :=
  ⟨"x", .join "x", by decide +kernel⟩

theorem finishable_turnKeyword : Finishable Suggestion.turnKeyword.text :=
  ⟨"", .turn, by decide +kernel⟩

theorem finishable_ofCharacter (t : CharacterType) :
    Finishable (Suggestion.ofCharacter t).text := by
  refine ⟨"", .join t.name, ?_⟩
  cases t <;> decide +kernel

theorem finishable_of_mem_joinSuggestions {t : Typed} (h : x ∈ joinSuggestions t) :
    Finishable x.text := by
  have hall : x ∈ CharacterType.all.map Suggestion.ofCharacter → Finishable x.text := by
    intro h
    obtain ⟨t, -, rfl⟩ := List.mem_map.mp h
    exact finishable_ofCharacter t
  unfold joinSuggestions at h
  split at h
  · split at h
    · obtain ⟨p, -, rfl⟩ := List.mem_map.mp h
      exact finishable_ofCharacter p.2
    · exact hall h
  · exact hall h

theorem finishable_of_mem_openings (h : x ∈ s.openings) : Finishable x.text := by
  unfold openings at h
  simp only [List.mem_append] at h
  rcases h with ((h | h) | h) | h
  · split at h
    · cases h
    · obtain rfl := List.mem_singleton.mp h
      exact finishable_joinKeyword
  · obtain ⟨f, -, rfl⟩ := List.mem_map.mp h
    exact finishable_ofFleet f
  · obtain ⟨w, -, rfl⟩ := List.mem_map.mp h
    exact finishable_suggestWorld (s := s) w
  · obtain rfl := List.mem_singleton.mp h
    exact finishable_turnKeyword

theorem finishable_of_mem_matching {line : String} (h : x ∈ s.matching line) :
    Finishable x.text := by
  obtain ⟨p, hp, rfl⟩ := List.mem_map.mp h
  rcases List.mem_append.mp (Similarity.mem_of_mem_ranked hp) with h | h
  · exact finishable_of_mem_openings h
  · rcases List.mem_cons.mp h with h | h
    · exact h ▸ finishable_joinKeyword
    · exact List.mem_singleton.mp h ▸ finishable_turnKeyword

/-- At a stage that takes no amount, whatever is offered can be finished. -/
theorem finishable_of_mem_staged {limit : Nat} {line : String}
    (htakes : ¬ (Reading.live line).stage.TakesAmount)
    (h : x ∈ s.staged limit line ⟨lineTokens line⟩ (Reading.live line).stage) :
    Finishable x.text := by
  have hsound : ∀ t ∈ lineTokens line, t.Sound := fun _ => sound_of_mem_lineTokens
  have hkinds := Reading.live_stage line
  cases hstage : (Reading.live line).stage with
  | empty =>
    rw [hstage] at h
    exact finishable_of_mem_openings (List.mem_mergeSort.mp (List.mem_of_mem_take h))
  | fleet stage =>
    rw [hstage] at h htakes hkinds
    exact finishable_of_mem_fleetStage hkinds.symm hsound htakes h
  | world stage =>
    rw [hstage] at h htakes hkinds
    exact finishable_of_mem_worldStage hkinds.symm hsound htakes h
  | join =>
    rw [hstage] at h
    exact finishable_of_mem_joinSuggestions h
  | turn =>
    rw [hstage] at h
    exact List.mem_singleton.mp h ▸ finishable_turnKeyword
  | unknown =>
    rw [hstage] at h
    exact finishable_of_mem_matching h

/-- Where an amount is due, an amount or a target is offered. -/
theorem amountOffer_of_mem_staged {limit : Nat} {line : String}
    (htakes : (Reading.live line).stage.TakesAmount)
    (h : x ∈ s.staged limit line ⟨lineTokens line⟩ (Reading.live line).stage) :
    (∃ vs, AmountHead vs ∧ Leads vs (lineTokens line) ((lineTokens line).drop 3)) ∧
      AmountOffer ⟨lineTokens line⟩ x := by
  have hkinds := Reading.live_stage line
  cases hstage : (Reading.live line).stage with
  | fleet stage =>
    rw [hstage] at h htakes hkinds
    obtain ⟨⟨f, hleads⟩, hoffer⟩ := amountOffer_of_mem_fleetStage hkinds.symm htakes h
    exact ⟨⟨_, .inl ⟨f, rfl⟩, hleads⟩, hoffer⟩
  | world stage =>
    rw [hstage] at h htakes hkinds
    obtain ⟨⟨w, hleads⟩, hoffer⟩ := amountOffer_of_mem_worldStage hkinds.symm htakes h
    exact ⟨⟨_, .inr ⟨w, rfl⟩, hleads⟩, hoffer⟩
  | _ =>
    rw [hstage] at htakes
    exact htakes.elim

end Snapshot

end FleetOrders
