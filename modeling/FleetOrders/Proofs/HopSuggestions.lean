/-
FleetOrders.Proofs.HopSuggestions — the hops that are offered for a fleet
are legal moves.

The hops come from two places: those that go on from the end of the path,
and those that take the place of its last hop. Either way the new path is a
beginning of the typed one with one hop more, along a connection of the map
(`spells_of_mem_pathStage`), so it is a walk when the typed path is.

* `Snapshot.Walk.of_isPrefix`, `Snapshot.Walk.snoc`, `Snapshot.Walk.exists_hop`
  — the beginning of a walk is a walk, so is a walk with one hop more, and a
  walk goes on by hops.
* `Typed.hops_of_leads`, `Typed.count_of_leads` — the hops that suggestions go
  on from are those that were typed, and how many tokens they take.
* `Snapshot.hop_suggestions_legal` — what is offered reads as a move of the
  fleet, and the move is valid.
-/
import FleetOrders.Proofs.SuggestionTexts

namespace FleetOrders

/-! ## Walks on the map -/

namespace Snapshot

variable {s : Snapshot} {start : WorldId} {path : List WorldId}

theorem Walk.of_isPrefix (h : s.Walk start path) {more : List WorldId} (hpre : more <+: path) :
    s.Walk start more :=
  List.IsChain.prefix h ((List.prefix_cons_inj start).mpr hpre)

/-- A walk stands on the last world of its path, or where it started. -/
theorem getLast?_walk (start : WorldId) (path : List WorldId) :
    (start :: path).getLast? = path.getLast?.or (some start) := by
  cases hpath : path.getLast? <;> simp [List.getLast?_cons, hpath]

/-- A walk goes on with a hop from the world on which it stands. -/
theorem Walk.snoc (h : s.Walk start path) {source w : WorldId}
    (hsource : path.getLast?.or (some start) = some source) (hhop : s.Hop source w) :
    s.Walk start (path ++ [w]) := by
  rw [Walk, ← List.cons_append, List.isChain_append]
  refine ⟨h, List.isChain_singleton w, fun u hu v hv => ?_⟩
  obtain rfl : w = v := Option.some.inj hv
  rw [getLast?_walk, hsource] at hu
  obtain rfl : source = u := Option.some.inj hu
  exact hhop

/-- From where the beginning of a walk ends, a hop leads to the next world
of the walk. -/
theorem Walk.exists_hop {before after : List WorldId} {w : WorldId}
    (h : s.Walk start (before ++ w :: after)) :
    ∃ source, before.getLast?.or (some start) = some source ∧ s.Hop source w := by
  rw [Walk, ← List.cons_append, List.isChain_append] at h
  obtain ⟨source, hsource⟩ : ∃ source, (start :: before).getLast? = some source :=
    ⟨_, List.getLast?_eq_some_getLast (List.cons_ne_nil start before)⟩
  exact ⟨source, getLast?_walk start before ▸ hsource, h.2.2 source hsource w rfl⟩

/-- A fleet that may move along a path may move along a beginning of it and
one hop more. -/
theorem legal_move_snoc {fleet : FleetId} {f : Fleet} (hown : s.OwnFleet fleet f)
    (hships : 0 < f.ships) (hstation : f.station = some start) (hwalk : s.Walk start path)
    {source w : WorldId} (hsource : walkEnd f path = some source) (hhop : s.Hop source w) :
    s.Legal (.move fleet (path ++ [w])) := by
  rw [walkEnd, hstation] at hsource
  exact ⟨f, hown, hships, start, hstation, hwalk.snoc hsource hhop⟩

end Snapshot

/-! ## Hops as they are typed -/

/-- One token is left, a `W` that waits for its digits. -/
def BareWorld (ts : List Token) : Prop :=
  ∃ t, ts = [t] ∧ t.kind = .unknown ∧ t.text = "W"

namespace Typed

theorem worldPairs_of_leads {path : List WorldId} {ts rest : List Token}
    (h : Leads (path.flatMap WorldId.words) ts rest) :
    worldPairs ts = path ++ worldPairs rest := by
  induction path generalizing ts with
  | nil => rw [leads_nil.mp h, List.nil_append]
  | cons w path ih =>
    obtain ⟨mark, digits, more, rfl, hmark, ⟨hkind, hvalue⟩, hmore⟩ := Reading.leads_hop_iff.mp h
    rw [worldPairs, if_pos ⟨hmark, hkind⟩, hvalue]
    simp only [List.cons_append, ih hmore]

theorem worldPairs_of_next {ts : List Token} (h : (Reading.next ts).kind ≠ .worldMark) :
    worldPairs ts = [] := by
  cases ts with
  | nil => rfl
  | cons mark rest =>
    cases rest with
    | nil => rfl
    | cons digits rest => exact if_neg fun hkinds => h hkinds.1

theorem number?_of_mark {mark : Sign} {n : UInt32} {ws : List Word} {ts rest : List Token}
    (h : Leads (.sign mark :: .number n :: ws) ts rest) : (Typed.mk ts).number? 1 = some n := by
  obtain ⟨_, _, rfl, -, t, _, rfl, ht, -⟩ := h
  exact number?_eq_some_iff.mpr ⟨t, rfl, ht⟩

theorem number?_of_leads {fleet : FleetId} {ws : List Word} {ts rest : List Token}
    (h : Leads (fleet.words ++ ws) ts rest) : (Typed.mk ts).number? 1 = some fleet.number :=
  number?_of_mark h

end Typed

theorem Leads.of_fleet {fleet : FleetId} {ws : List Word} {ts rest : List Token}
    (h : Leads (fleet.words ++ ws) ts rest) :
    Leads fleet.words ts (ts.drop 2) ∧ Leads ws (ts.drop 2) rest := by
  obtain ⟨mark, _, rfl, hmark, digits, more, rfl, hdigits, hmore⟩ := h
  exact ⟨⟨mark, _, rfl, hmark, digits, more, rfl, hdigits, rfl⟩, hmore⟩

namespace Typed

section Hops

variable {fleet : FleetId} {path : List WorldId} {ts rest : List Token}
  (h : Leads (fleet.words ++ path.flatMap WorldId.words) ts rest)
include h

/-- Behind a fleet and a path that no further mark follows, pairs are found
for the path and no more. -/
theorem hops_of_leads (hstop : (Reading.next rest).kind ≠ .worldMark) :
    (Typed.mk ts).hops = path := by
  rw [hops, worldPairs_of_leads h.of_fleet.2, worldPairs_of_next hstop, List.append_nil]

/-- There are two tokens for the fleet and two for each hop. -/
theorem count_of_leads : (Typed.mk ts).count = 2 + 2 * path.length + rest.length := by
  rw [count, h.length_eq, List.length_append, Snapshot.length_flatMap_words]
  rfl

end Hops

end Typed

/-- A line from which a command was read names its action. -/
theorem Command.stage_ne_action (c : Command) (consumedAll : Bool) :
    c.stage consumedAll ≠ .fleet .action := by
  cases c with
  | ambush | partialTransfer | partialBuild => cases consumedAll <;> exact nofun
  | _ => exact nofun

/-! ## Legal hops -/

namespace Snapshot

variable {s : Snapshot} {fleet : FleetId} {f : Fleet} {start : WorldId} {line : String}
  {path : List WorldId} {rest : List Token} {x : Suggestion}

/-- The suggestion reads as a move of the fleet, and the move is valid. -/
def OffersMove (s : Snapshot) (fleet : FleetId) (text : String) : Prop :=
  ∃ path, (Reading.final text).error = none ∧
    (Reading.final text).command = some (.move fleet path) ∧
    (assess s .submission (some (.move fleet path))).isValid = true

theorem offersMove_of_legal {text : String} (hne : path ≠ [])
    (hspells : Spells (fleet.words ++ path.flatMap WorldId.words) text.toList)
    (hlegal : s.Legal (.move fleet path)) : s.OffersMove fleet text := by
  have hapart : Apart (Command.move fleet path).words := Command.apart_words nofun nofun nofun
  obtain ⟨herror, hcommand⟩ :=
    Reading.final_of_spells (c := .move fleet path) hspells hapart ⟨hne, TokenKind.noConfusion⟩
  exact ⟨path, herror, hcommand, isValid_assess_submission_iff.mpr hlegal⟩

/-- Whole hops on a line are read as a move, also when a `W` without digits
follows them. -/
theorem live_command_of_hops (hleads : Leads (fleet.words ++ path.flatMap WorldId.words)
      (lineTokens line) rest)
    (hne : path ≠ []) (hrest : rest = [] ∨ BareWorld rest) :
    (Reading.live line).command = some (.move fleet path) := by
  obtain ⟨stop, htokens⟩ := exists_tokenize_eq line
  have hstop : (Reading.next (rest ++ [Token.atEnd stop])).kind ≠ .worldMark := by
    rcases hrest with rfl | ⟨t, rfl, hkind, -⟩
    · exact TokenKind.noConfusion
    · simp [Reading.next, hkind]
  refine Reading.live_command_eq_some_iff.mpr ⟨rest ++ [Token.atEnd stop], ?_⟩
  rw [htokens]
  exact Reading.order_eq_ok_iff.mpr ⟨hleads.append _, hne, hstop⟩

/-- What is offered behind a legal path is a legal move. -/
theorem offersMove_of_mem_pathStage
    (hleads : Leads (fleet.words ++ path.flatMap WorldId.words) (lineTokens line) rest)
    (hrest : rest = [] ∨ BareWorld rest) (hlegal : s.Legal (.move fleet path))
    (h : x ∈ s.pathStage fleet ⟨lineTokens line⟩) : s.OffersMove fleet x.text := by
  have hstop : (Reading.next rest).kind ≠ .worldMark := by
    rcases hrest with rfl | ⟨t, rfl, hkind, -⟩
    · exact TokenKind.noConfusion
    · simp [Reading.next, hkind]
  have hpairs := Typed.hops_of_leads hleads hstop
  obtain ⟨f, before, source, w, hf, hpre, hsource, hhop, hspells⟩ :=
    spells_of_mem_pathStage hleads.of_fleet.1 (fun _ => sound_of_mem_lineTokens) h
  obtain ⟨g, hown, hships, start, hstation, hwalk⟩ := hlegal
  obtain rfl : g = f := Option.some.inj (hown.1.symm.trans hf)
  have hbefore := hwalk.of_isPrefix (hpairs ▸ hpre)
  exact offersMove_of_legal (by simp) hspells
    (legal_move_snoc hown hships hstation hbefore hsource hhop)

/-- For a `W` right after the number of a fleet the first hops are found. -/
theorem fleetActionStage_of_bareWorld {ts : List Token} (hf : s.fleet? fleet = some f)
    (hstation : f.station = some start) (hleads : Leads fleet.words ts rest)
    (hrest : BareWorld rest) :
    s.fleetActionStage fleet ⟨ts⟩ = s.hopsFrom ((Typed.mk ts).upTo 2) start := by
  obtain ⟨t, rfl, hkind, htext⟩ := hrest
  have hcount : (Typed.mk ts).count = 3 := hleads.length_eq
  have hbare : (Typed.mk ts).endsInBareWorld = true := by
    obtain ⟨taken, rfl, -⟩ := hleads.exists_prefix
    simp [Typed.endsInBareWorld, hkind, htext]
  rw [fleetActionStage, if_pos ⟨hcount, hbare⟩, hf, Option.bind_some, hstation]

/-- What is offered for a `W` right after the number of a fleet is a legal
move. -/
theorem offersMove_of_mem_fleetActionStage (hown : s.OwnFleet fleet f) (hships : 0 < f.ships)
    (hstation : f.station = some start) (hleads : Leads fleet.words (lineTokens line) rest)
    (hrest : BareWorld rest) (h : x ∈ s.fleetActionStage fleet ⟨lineTokens line⟩) :
    s.OffersMove fleet x.text := by
  rw [fleetActionStage_of_bareWorld hown.1 hstation hleads hrest] at h
  obtain ⟨w, hhop, hadds⟩ := adds_of_mem_hopsFrom h
  have hspells := hleads.spells_of_adds (fun _ => sound_of_mem_lineTokens) hadds
  have hwalk : s.Walk start [] := List.isChain_singleton start
  have hlegal : s.Legal (.move fleet ([] ++ [w])) :=
    legal_move_snoc hown hships hstation hwalk hstation hhop
  exact offersMove_of_legal (List.cons_ne_nil w []) hspells hlegal

/-- A move that was typed is offered as it stands. -/
theorem offersMove_of_check {sub : Submission} (hsub : s.check line = .ok sub)
    (hcommand : (Reading.live line).command = some (.move fleet path)) (hne : path ≠ [])
    (hvalid : (assess s .submission (some (.move fleet path))).isValid = true) :
    s.OffersMove fleet sub.wire := by
  obtain ⟨hsame, hwire⟩ := check_ok_facts hsub
  have hmove : sub.command = .move fleet path := Option.some.inj (hsame.symm.trans hcommand)
  rw [hmove] at hwire
  obtain ⟨herror, -, hread⟩ := Reading.final_wire hwire hne
  exact ⟨path, herror, hread, hvalid⟩

/-- Let the player own a fleet that is stationed and has ships, and let a
line name the fleet and then either whole hops that make a valid move,
perhaps with a `W` without digits behind them, or that `W` alone. Whatever
is offered for the line is accepted as a move of the fleet, and that move
is valid. -/
theorem hop_suggestions_legal (hown : s.OwnFleet fleet f) (hstation : f.isStationed = true)
    (hships : 0 < f.ships)
    (hleads : Leads (fleet.words ++ path.flatMap WorldId.words) (lineTokens line) rest)
    (hline : (path ≠ [] ∧ (assess s .submission (some (.move fleet path))).isValid = true ∧
        (rest = [] ∨ BareWorld rest)) ∨ (path = [] ∧ BareWorld rest)) (limit : Nat) :
    ∀ x ∈ (s.analyze limit line).suggestions, s.OffersMove fleet x.text := by
  intro x hx
  have hn := Typed.number?_of_leads hleads
  rcases hline with ⟨hne, hvalid, hrest⟩ | ⟨rfl, hrest⟩
  · have hcommand := live_command_of_hops hleads hne hrest
    have hstage := Reading.stage_of_command hcommand
    rcases mem_suggestions hx with ⟨sub, hsub, htext⟩ | ⟨y, hy, htext⟩
    · rw [htext]
      exact offersMove_of_check hsub hcommand hne hvalid
    · rw [hstage] at hy
      simp only [Command.stage, staged, fleetStage, hn] at hy
      rw [htext]
      exact offersMove_of_mem_pathStage hleads hrest (isValid_assess_submission_iff.mp hvalid)
        (List.mem_filter.mp hy).1
  · rw [List.flatMap_nil, List.append_nil] at hleads
    have hstage : (Reading.live line).stage = .fleet .action := by
      obtain ⟨t, rfl, hkind, -⟩ := hrest
      rw [Reading.live_stage, hleads.map_kind, List.map_singleton, hkind]
      rfl
    rcases mem_suggestions hx with ⟨sub, hsub, -⟩ | ⟨y, hy, htext⟩
    · -- no command leaves its line at this stage
      have haction := Reading.stage_of_command (check_ok_facts hsub).1
      exact absurd (haction.symm.trans hstage) (Command.stage_ne_action _ _)
    · rw [hstage] at hy
      simp only [staged, fleetStage, hn] at hy
      obtain ⟨start, hstart⟩ := Option.isSome_iff_exists.mp hstation
      rw [htext]
      exact offersMove_of_mem_fleetActionStage hown hships hstart hleads hrest hy

/-- On the demonstration map: a hop with a leading zero and a `W` behind
it. -/
theorem hop_suggestions_legal_demo : demo.OffersMove ⟨1⟩ "F1W03W4" := by
  have hfleet : demo.fleet? ⟨1⟩ = some ⟨⟨1⟩, some "Commander", some ⟨1⟩, 14, 0⟩ := by
    decide +kernel
  have htokens : lineTokens "f1 w03w" =
      [⟨.fleetMark, "F", 0⟩, ⟨.number, "1", 1⟩, ⟨.worldMark, "W", 3⟩, ⟨.number, "03", 4⟩,
        ⟨.unknown, "W", 6⟩] := by
    decide +kernel
  have hleads : Leads ((FleetId.mk 1).words ++ [WorldId.mk 3].flatMap WorldId.words)
      (lineTokens "f1 w03w") [⟨.unknown, "W", 6⟩] := by
    rw [htokens]
    exact ⟨_, _, rfl, rfl, _, _, rfl, ⟨rfl, by decide⟩, _, _, rfl, rfl, _, _, rfl,
      ⟨rfl, by decide⟩, rfl⟩
  have hvalid : (assess demo .submission (some (.move ⟨1⟩ [⟨3⟩]))).isValid = true := by
    decide +kernel
  have hoffered : ∃ x ∈ (demo.analyze 10 "f1 w03w").suggestions, x.text = "F1W03W4" := by
    decide +kernel
  obtain ⟨x, hx, htext⟩ := hoffered
  have hlegal := hop_suggestions_legal ⟨hfleet, by decide +kernel⟩ rfl (by decide) hleads
    (.inl ⟨List.cons_ne_nil _ _, hvalid, .inr ⟨_, rfl, rfl, rfl⟩⟩) 10 x hx
  rw [htext] at hlegal
  exact hlegal

end Snapshot

end FleetOrders
