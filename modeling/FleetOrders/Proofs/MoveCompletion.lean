/-
FleetOrders.Proofs.MoveCompletion — every legal move can be put together by
taking suggestions.

The player starts with an empty line and takes what is offered: the fleet,
the `W` of its action, the first hop, then one hop after the other. The
lines on that way are canonical text already, so what suggestions repeat of
them is the line itself.

* `Snapshot.candidates` — everything that is found for a line; a limit that
  leaves room for it cuts nothing. `Snapshot.Offers` speaks of such limits.
* `Typed.text_of_line` — a line of capitals without blanks is repeated as it
  is, unless it joins or ends the turn.
* `Snapshot.offers_fleet`, `Snapshot.offers_action`, `Snapshot.offers_first_hop`,
  `Snapshot.offers_next_hop` — the single steps.
* `Snapshot.legal_moves_offered` — the way, step by step, and the submission
  at its end.
-/
import FleetOrders.Proofs.Fidelity
import FleetOrders.Proofs.HopSuggestions

namespace FleetOrders

open Text (isBlank upper)

/-! ## Everything that is found for a line -/

theorem length_distinctTexts_le (seen : List String) (found : List Suggestion) :
    (distinctTexts seen found).length ≤ found.length := by
  induction found generalizing seen with
  | nil => simp [distinctTexts]
  | cons x rest ih =>
    rw [distinctTexts]
    split
    · have := ih seen
      simp only [List.length_cons]
      omega
    · have := ih (x.text :: seen)
      simp only [List.length_cons]
      omega

/-- A text that stood before stands still when repeated texts are
dropped. -/
theorem exists_mem_distinctTexts {x : Suggestion} {seen : List String} {found : List Suggestion}
    (h : x ∈ found) (hseen : x.text ∉ seen) : ∃ y ∈ distinctTexts seen found, y.text = x.text := by
  induction found generalizing seen with
  | nil => cases h
  | cons z rest ih =>
    rw [distinctTexts]
    by_cases hz : z.text ∈ seen
    · have hne : x ≠ z := fun heq => hseen (heq ▸ hz)
      obtain ⟨y, hy, htext⟩ := ih ((List.mem_cons.mp h).resolve_left hne) hseen
      exact ⟨y, by simpa [hz] using hy, htext⟩
    · by_cases hsame : x.text = z.text
      · exact ⟨z, by simp [hz], hsame.symm⟩
      · have hne : x ≠ z := fun heq => hsame (heq ▸ rfl)
        have hseen' : x.text ∉ z.text :: seen := by simp [hsame, hseen]
        obtain ⟨y, hy, htext⟩ := ih ((List.mem_cons.mp h).resolve_left hne) hseen'
        exact ⟨y, by simp [hz, hy], htext⟩

namespace Snapshot

variable {s : Snapshot} {line text : String}

/-- Everything that is found for a line, before repeated texts are dropped
and the limit cuts the end. -/
def candidates (s : Snapshot) (line : String) : List Suggestion :=
  (submitSuggestion? (.live line) (assess s .live (Reading.live line).command)).toList ++
    s.staged s.openings.length line (.ofTokens (Reading.live line).tokens) (Reading.live line).stage

/-- The text is offered for the line under every limit that leaves room for
all candidates. -/
def Offers (s : Snapshot) (line text : String) : Prop :=
  ∀ limit, (s.candidates line).length ≤ limit →
    ∃ x ∈ (s.analyze limit line).suggestions, x.text = text

/-- With room for all candidates the limit does not matter. -/
theorem staged_of_room {limit : Nat} (h : (s.candidates line).length ≤ limit) :
    s.staged limit line (.ofTokens (Reading.live line).tokens) (Reading.live line).stage =
      s.staged s.openings.length line (.ofTokens (Reading.live line).tokens)
        (Reading.live line).stage := by
  unfold candidates at h
  cases hstage : (Reading.live line).stage with
  | empty =>
    rw [hstage] at h
    simp only [staged, topLevel, List.length_append, List.length_take, List.length_mergeSort,
      Nat.min_self] at h
    simp only [staged, topLevel]
    rw [List.take_of_length_le (by simp; omega), List.take_of_length_le (by simp)]
  | _ => rfl

/-- What a stage finds is offered. -/
theorem offers_of_mem_staged {x : Suggestion}
    (h : x ∈ s.staged s.openings.length line ⟨lineTokens line⟩ (Reading.live line).stage) :
    s.Offers line x.text := by
  intro limit hlimit
  rw [← Typed.ofTokens_tokenize, ← Reading.live_tokens] at h
  obtain ⟨y, hy, htext⟩ := exists_mem_distinctTexts
    (List.mem_append_right (submitSuggestion? (.live line)
      (assess s .live (Reading.live line).command)).toList h) List.not_mem_nil
  rw [← htext]
  refine ⟨{ y with complete := isSubmittable y.text }, ?_, rfl⟩
  have hroom := Nat.le_trans (length_distinctTexts_le [] _) hlimit
  have hfound : (s.analyze limit line).suggestions =
      (distinctTexts [] (s.candidates line)).map fun z =>
        { z with complete := isSubmittable z.text } := by
    rw [suggestions_eq, staged_of_room hlimit]
    exact congrArg _ (List.take_of_length_le hroom)
  rw [hfound]
  exact List.mem_map_of_mem hy

end Snapshot

/-! ## Lines in canonical text -/

theorem Word.map_upper_chars {w : Word} (h : w.kind ≠ .joinText) :
    w.chars.map upper = w.chars := by
  cases w with
  | sign s => cases s <;> rfl
  | number n => exact Text.map_upper_of_isDigit (Text.isDigit_of_mem_digits n.toNat)
  | free text => exact absurd rfl h

theorem TokenKind.OfOrders.ne_words {kind : TokenKind} (h : kind.OfOrders) :
    kind ≠ .joinText ∧ kind ≠ .turn := by
  rcases h with rfl | ⟨s, rfl, hturn⟩
  · exact ⟨TokenKind.noConfusion, TokenKind.noConfusion⟩
  · exact ⟨s.kind_ne_joinText, fun hkind => hturn (Sign.kind_injective (t := .turn) hkind)⟩

theorem Apart.map_upper_chars {ws : List Word} (h : Apart ws) :
    (ws.flatMap Word.chars).map upper = ws.flatMap Word.chars := by
  rw [List.map_flatMap]
  exact List.flatMap_congr fun w hw => Word.map_upper_chars (h.ofOrders w hw).ne_words.1

theorem Segment.mem_of_mem_text {cs : List Char} {s : Segment} (h : s ∈ segments cs) {c : Char}
    (hc : c ∈ s.text) : c ∈ cs := by
  rw [← text_segments cs]
  exact List.mem_flatMap.mpr ⟨s, h, hc⟩

/-- A text without blanks is plain unless it joins or ends the turn. -/
theorem Segment.plain_of_bare {cs : List Char} (hbare : ∀ c ∈ cs, isBlank c = false)
    (hkinds : ∀ kind text, .lexeme kind text ∈ segments cs → kind ≠ .joinText ∧ kind ≠ .turn) :
    ∀ s ∈ segments cs, s.Plain := by
  intro s hs
  have hclear : ∀ c ∈ s.text, isBlank c = false := fun c hc => hbare c (mem_of_mem_text hs hc)
  cases s with
  | lexeme kind text => exact ⟨(hkinds kind text hs).1, hclear⟩
  | space c =>
    have hblank : isBlank c = true := (cut_segments cs).accounted _ hs
    rw [hclear c (List.mem_singleton_self c)] at hblank
    cases hblank
  | unread text =>
    obtain ⟨word, hword⟩ := (cut_segments cs).accounted _ hs
    exact absurd rfl (hkinds .turn word hword).2

/-- A line of capitals without blanks is repeated as it is. -/
theorem Typed.text_of_line {line : String} (hbare : ∀ c ∈ line.toList, isBlank c = false)
    (hupper : line.toList.map upper = line.toList)
    (hkinds : ∀ t ∈ lineTokens line, t.kind ≠ .joinText ∧ t.kind ≠ .turn) :
    (Typed.mk (lineTokens line)).text = line := by
  have htrim := Text.trim_of_bareEnds (Text.bareEnds_of_forall hbare)
  have hplain : ∀ s ∈ Segment.segments (Text.trim line.toList), s.Plain := by
    rw [htrim]
    refine Segment.plain_of_bare hbare fun kind text hmem => ?_
    obtain ⟨t, ht, rfl⟩ := Token.exists_token_of_lexeme (htrim.symm ▸ hmem) 0
    obtain ⟨stop, htokens⟩ := exists_tokenize_eq line
    rw [show Token.ofSegments 0 _ = tokenize line from rfl, htokens] at ht
    rcases List.mem_append.mp ht with ht | ht
    · exact hkinds t ht
    · rw [List.mem_singleton.mp ht]
      exact ⟨TokenKind.noConfusion, TokenKind.noConfusion⟩
  have hcapitals := capitals_of_plain hplain
  rw [Text.solid_of_forall hbare, hupper] at hcapitals
  exact (String.toList_injective hcapitals).symm

/-- So it is with words that stay apart, also when a `W` stands behind
them. -/
theorem Apart.text_of_line {ws : List Word} (h : Apart ws) {line : String} {rest : List Token}
    (hline : line.toList = ws.flatMap Word.chars ++ rest.flatMap fun t => t.text.toList)
    (hleads : Leads ws (lineTokens line) rest)
    (hrest : ∀ t ∈ rest, t.kind = .unknown ∧ t.text = "W") :
    (Typed.mk (lineTokens line)).text = line := by
  have hletters : ∀ c ∈ rest.flatMap fun t => t.text.toList, c = 'W' := by
    intro c hc
    obtain ⟨t, ht, hc⟩ := List.mem_flatMap.mp hc
    rw [(hrest t ht).2] at hc
    exact List.mem_singleton.mp hc
  refine Typed.text_of_line ?_ ?_ fun t ht => ?_
  · rw [hline]
    intro c hc
    rcases List.mem_append.mp hc with hc | hc
    · exact h.isBlank_of_mem (spells_chars ws) c hc
    · rw [hletters c hc]
      rfl
  · have hsame : (rest.flatMap fun t => t.text.toList).map upper =
        rest.flatMap fun t => t.text.toList := by
      rw [List.map_congr_left (g := id) fun c hc => by rw [hletters c hc]; rfl, List.map_id]
    rw [hline, List.map_append, h.map_upper_chars, hsame]
  · have hkind := List.mem_map_of_mem (f := Token.kind) ht
    rw [hleads.map_kind] at hkind
    rcases List.mem_append.mp hkind with hkind | hkind
    · obtain ⟨w, hw, hsame⟩ := List.mem_map.mp hkind
      exact hsame ▸ (h.ofOrders w hw).ne_words
    · obtain ⟨u, hu, hsame⟩ := List.mem_map.mp hkind
      rw [← hsame, (hrest u hu).1]
      exact ⟨TokenKind.noConfusion, TokenKind.noConfusion⟩

/-! ## The lines on the way -/

/-- The line that sends a fleet along a path; without a path, the fleet
alone. -/
def moveLine (fleet : FleetId) (path : List WorldId) : String :=
  fleet.text ++ String.join (path.map WorldId.text)

theorem moveLine_nil (fleet : FleetId) : moveLine fleet [] = fleet.text := by
  simp [moveLine]

theorem moveLine_append (fleet : FleetId) (before : List WorldId) (w : WorldId) :
    moveLine fleet (before ++ [w]) = moveLine fleet before ++ w.text := by
  simp [moveLine, String.append_assoc]

theorem toList_moveLine (fleet : FleetId) (path : List WorldId) :
    (moveLine fleet path).toList =
      (fleet.words ++ path.flatMap WorldId.words).flatMap Word.chars := by
  rw [moveLine, String.toList_append, fleet.toList_text, toList_join_worldTexts,
    List.flatMap_append]

theorem apart_move (fleet : FleetId) (path : List WorldId) :
    Apart (fleet.words ++ path.flatMap WorldId.words) :=
  .numbered (.inl rfl) fleet.number (.path path)

theorem leads_moveLine (fleet : FleetId) (path : List WorldId) :
    Leads (fleet.words ++ path.flatMap WorldId.words) (lineTokens (moveLine fleet path)) [] :=
  Reading.leads_lineTokens_iff.mpr
    ((apart_move fleet path).leads_tokenize (toList_moveLine fleet path ▸ spells_chars _))

theorem text_moveLine (fleet : FleetId) (path : List WorldId) :
    (Typed.mk (lineTokens (moveLine fleet path))).text = moveLine fleet path :=
  (apart_move fleet path).text_of_line (by simpa using toList_moveLine fleet path)
    (leads_moveLine fleet path) nofun

/-- A `W` behind the fleet is a token of its own. -/
theorem leads_bareLine (fleet : FleetId) :
    ∃ t : Token, t.kind = .unknown ∧ t.text = "W" ∧
      Leads fleet.words (lineTokens (fleet.text ++ "W")) [t] := by
  have hapart := apart_move fleet []
  rw [List.flatMap_nil, List.append_nil] at hapart
  have hline : (fleet.text ++ "W").toList = fleet.words.flatMap Word.chars ++ ['W'] := by
    simp [fleet.toList_text]
  have hends : Text.BareEnds (fleet.text ++ "W").toList :=
    hline ▸ Text.bareEnds_cons_append (c := 'F') rfl (List.cons_ne_nil 'W' [])
      (Text.bareEnds_of_forall (by simp; decide))
  obtain ⟨stop, hleads⟩ := hapart.leads_ofSegments_append (spells_chars _)
    (Segment.noDigitHead_cons (c := 'W') rfl []) 0
  rw [← hline, ← Text.trim_of_bareEnds hends] at hleads
  obtain ⟨other, htokens⟩ := exists_tokenize_eq (fleet.text ++ "W")
  rw [show Token.ofSegments 0 _ = tokenize (fleet.text ++ "W") from rfl, htokens] at hleads
  obtain ⟨more, hmore, hwords⟩ :=
    Reading.exists_left_over (fun _ => sound_of_mem_lineTokens) hleads
  -- cut alone, the `W` is unknown to the language
  have hrest : [⟨.unknown, "W", stop⟩] ++ [Token.atEnd (stop + 1)] = more ++ [Token.atEnd other] :=
    hmore
  obtain ⟨rfl, -⟩ := List.append_inj' hrest rfl
  exact ⟨_, rfl, rfl, hwords⟩

theorem upTo_bareLine (fleet : FleetId) :
    (Typed.mk (lineTokens (fleet.text ++ "W"))).upTo 2 = fleet.text := by
  obtain ⟨t, hkind, htext, hleads⟩ := leads_bareLine fleet
  have hapart := apart_move fleet []
  rw [List.flatMap_nil, List.append_nil] at hapart
  have hwhole := hapart.text_of_line (by simp [fleet.toList_text, htext]) hleads
    (by simp [hkind, htext])
  obtain ⟨a, _, htokens, -, b, _, rfl, -, rfl⟩ := hleads
  have hlast : Typed.canonical t = "W" := by simp [Typed.canonical, hkind, htext]
  rw [htokens] at hwhole ⊢
  rw [← String.toList_inj, Typed.toList_text, String.toList_append] at hwhole
  have hsame : ((Typed.mk [a, b, t]).upTo 2).toList ++ "W".toList =
      fleet.text.toList ++ "W".toList := by
    rw [Typed.toList_upTo]
    simpa [hlast] using hwhole
  exact String.toList_inj.mp (List.append_cancel_right hsame)

/-! ## What is found on the way -/

theorem Typed.mem_keepExtending_of_text {t : Typed} {found : List Suggestion} {x : Suggestion}
    (hx : x ∈ found) {more : String} (htext : x.text = t.text ++ more) :
    x ∈ t.keepExtending found := by
  refine List.mem_filter.mpr ⟨hx, ?_⟩
  rw [htext, Text.isHeadOf, List.isPrefixOf_iff_prefix, String.toList_append]
  exact List.prefix_append t.text.toList more.toList

namespace Snapshot

variable {s : Snapshot} {fleet : FleetId} {f : Fleet} {base : String} {source w : WorldId}

theorem exists_mem_hopsFrom (hhop : s.Hop source w) (base : String) :
    ∃ x ∈ s.hopsFrom base source, x.text = base ++ w.text := by
  obtain ⟨here, hhere, hmem⟩ := hhop
  rw [hopsFrom, hhere]
  exact ⟨_, List.mem_map_of_mem hmem, rfl⟩

theorem exists_mem_nextHops {hops : List WorldId} (hsource : walkEnd f hops = some source)
    (hhop : s.Hop source w) (base : String) :
    ∃ x ∈ s.nextHops f hops base, x.text = base ++ w.text := by
  rw [nextHops, hsource]
  exact exists_mem_hopsFrom hhop base

/-- Telling the walk changes no text. -/
theorem map_text_noteWalk (f : Fleet) (hops : List WorldId) (found : List Suggestion) :
    (noteWalk f hops found).map Suggestion.text = found.map Suggestion.text := by
  unfold noteWalk
  split
  · rfl
  · split <;> rfl

/-- The empty line is offered the player's fleets. -/
theorem offers_fleet (hbuilt : s.Built) (hown : s.OwnFleet fleet f) :
    s.Offers "" fleet.text := by
  have hid := hbuilt.id_of_fleet? hown.1
  have hstage : (Reading.live "").stage = .empty := by decide +kernel
  have hmine : f ∈ s.ownFleets :=
    List.mem_filter.mpr ⟨Roster.mem_values_of_get? hown.1, isMine_iff.mpr hown.2⟩
  have hopening : (Suggestion.ofFleet f).weighing 10 ∈ s.openings := by
    simp only [openings, List.mem_append, List.mem_map]
    exact .inl (.inl (.inr ⟨f, hmine, rfl⟩))
  rw [← hid]
  refine offers_of_mem_staged (x := (Suggestion.ofFleet f).weighing 10) ?_
  rw [hstage, staged, topLevel, List.take_of_length_le (by simp)]
  exact List.mem_mergeSort.mpr hopening

/-- Behind one of the player's fleets a `W` is offered. -/
theorem offers_action (hown : s.OwnFleet fleet f) : s.Offers fleet.text (fleet.text ++ "W") := by
  have hleads := leads_moveLine fleet []
  have htext := text_moveLine fleet []
  rw [moveLine_nil] at hleads htext
  have hstage : (Reading.live fleet.text).stage = .fleet .fleetId := by
    rw [Reading.live_stage, hleads.map_kind]
    rfl
  have hmine : s.isMine ((s.fleet? fleet).bind Fleet.owner) = true := by
    rw [hown.1, Option.bind_some]
    exact isMine_iff.mpr hown.2
  obtain ⟨x, hx, hadded⟩ : ∃ x ∈ Suggestion.fleetActions fleet.text, x.text = fleet.text ++ "W" :=
    ⟨_, List.mem_cons_self, rfl⟩
  rw [← hadded]
  refine offers_of_mem_staged ?_
  rw [hstage]
  simp only [staged, fleetStage, fleetNumbers, Typed.number?_of_leads hleads, hmine, if_true]
  exact Typed.mem_keepExtending_of_text (List.mem_append_right _ hx) (htext.symm ▸ hadded)

/-- Behind the `W` the worlds next to the fleet are offered. -/
theorem offers_first_hop (hf : s.fleet? fleet = some f) (hstation : f.station = some source)
    (hhop : s.Hop source w) : s.Offers (fleet.text ++ "W") (moveLine fleet [w]) := by
  obtain ⟨t, hkind, htext, hleads⟩ := leads_bareLine fleet
  have hstage : (Reading.live (fleet.text ++ "W")).stage = .fleet .action := by
    rw [Reading.live_stage, hleads.map_kind, List.map_singleton, hkind]
    rfl
  obtain ⟨x, hx, hadded⟩ := exists_mem_hopsFrom hhop fleet.text
  rw [← List.nil_append [w], moveLine_append, moveLine_nil, ← hadded]
  refine offers_of_mem_staged ?_
  rw [← List.append_nil fleet.words] at hleads
  have hnumber := Typed.number?_of_leads hleads
  rw [List.append_nil] at hleads
  rw [hstage]
  simp only [staged, fleetStage, hnumber]
  rw [fleetActionStage_of_bareWorld hf hstation hleads ⟨t, rfl, hkind, htext⟩, upTo_bareLine]
  exact hx

/-- Behind a path the hops from its end are offered. -/
theorem offers_next_hop {path : List WorldId} (hne : path ≠ []) (hf : s.fleet? fleet = some f)
    (hsource : walkEnd f path = some source) (hhop : s.Hop source w) :
    s.Offers (moveLine fleet path) (moveLine fleet (path ++ [w])) := by
  have hleads := leads_moveLine fleet path
  have htext := text_moveLine fleet path
  have hstage : (Reading.live (moveLine fleet path)).stage = .fleet .movePath :=
    Reading.stage_of_command (live_command_of_hops hleads hne (.inl rfl))
  have hhops := Typed.hops_of_leads hleads TokenKind.noConfusion
  have hcount : (Typed.mk (lineTokens (moveLine fleet path))).count = 2 + 2 * path.length :=
    Typed.count_of_leads hleads
  obtain ⟨x, hx, hadded⟩ := exists_mem_nextHops hsource hhop (moveLine fleet path)
  have hnoted : ∃ y ∈ s.pathStage fleet ⟨lineTokens (moveLine fleet path)⟩, y.text = x.text := by
    simp only [pathStage, hf, hhops, hcount, htext]
    rw [if_neg (by simp), if_neg (by simp), ← List.mem_map, map_text_noteWalk]
    exact List.mem_map_of_mem (List.mem_append_left _ hx)
  obtain ⟨y, hy, hsame⟩ := hnoted
  rw [moveLine_append, ← hadded, ← hsame]
  refine offers_of_mem_staged ?_
  rw [hstage]
  simp only [staged, fleetStage, Typed.number?_of_leads hleads]
  exact Typed.mem_keepExtending_of_text hy (hsame.trans (hadded.trans (by rw [htext])))

/-! ## The whole way -/

/-- Every valid move along a path can be put together by taking
suggestions, when the limit leaves room for what is found at each step. The
empty line is offered the fleet, the fleet is offered a `W`, behind which the
first hop is offered, and behind each beginning of the path the next hop. The
first that is offered for the whole path is to send it as it stands. -/
theorem legal_moves_offered (hbuilt : s.Built) {path : List WorldId} (hne : path ≠ [])
    (hvalid : (assess s .submission (some (.move fleet path))).isValid = true) :
    s.Offers "" fleet.text ∧
    s.Offers fleet.text (fleet.text ++ "W") ∧
    (∀ w after, path = w :: after → s.Offers (fleet.text ++ "W") (moveLine fleet [w])) ∧
    (∀ before w after, path = before ++ w :: after → before ≠ [] →
      s.Offers (moveLine fleet before) (moveLine fleet (before ++ [w]))) ∧
    (Command.move fleet path).wire? = some (moveLine fleet path) ∧
    (∀ limit, (s.candidates (moveLine fleet path)).length ≤ limit → ∃ x others,
      (s.analyze limit (moveLine fleet path)).suggestions = x :: others ∧ x.kind = .submit ∧
        x.text = moveLine fleet path) := by
  have hlegal := isValid_assess_submission_iff.mp hvalid
  obtain ⟨f, hown, -, start, hstation, hwalk⟩ := hlegal
  refine ⟨offers_fleet hbuilt hown, offers_action hown, ?_, ?_, rfl, ?_⟩
  · rintro w after rfl
    have hfirst : s.Walk start ([] ++ w :: after) := hwalk
    obtain ⟨source, hsource, hhop⟩ := hfirst.exists_hop
    obtain rfl : start = source := Option.some.inj hsource
    exact offers_first_hop hown.1 hstation hhop
  · rintro before w after rfl hbefore
    obtain ⟨source, hsource, hhop⟩ := hwalk.exists_hop
    rw [← hstation] at hsource
    exact offers_next_hop hbefore hown.1 hsource hhop
  · intro limit hlimit
    have hcheck : s.check (moveLine fleet path) = .ok _ :=
      check_wire (c := .move fleet path) rfl hne hvalid
    have hroom : 1 ≤ limit := by
      rw [candidates, submitSuggestion?_eq_check, hcheck] at hlimit
      simp only [Except.toOption, Option.map_some, Option.toList_some, List.length_append,
        List.length_singleton] at hlimit
      omega
    obtain ⟨others, -, hfound⟩ := suggestions_of_check_ok hcheck hroom
    obtain ⟨hkind, htext, -⟩ := Suggestion.ofSubmission_facts
      ⟨moveLine fleet path, .move fleet path,
        (assess s .submission (some (.move fleet path))).warnings⟩
    exact ⟨_, others, hfound, hkind, htext⟩

/-- On the demonstration map, by way of world 3 to world 5. -/
theorem legal_moves_offered_demo :
    demo.Offers "" "F1" ∧ demo.Offers "F1" "F1W" ∧ demo.Offers "F1W" "F1W3" ∧
      demo.Offers "F1W3" "F1W3W5" ∧
      ∃ x others, (demo.analyze 10 "F1W3W5").suggestions = x :: others ∧ x.kind = .submit ∧
        x.text = "F1W3W5" := by
  have hvalid : (assess demo .submission (some (.move ⟨1⟩ [⟨3⟩, ⟨5⟩]))).isValid = true := by
    decide +kernel
  have hroom : (demo.candidates "F1W3W5").length ≤ 10 := by decide +kernel
  have htexts : (FleetId.mk 1).text = "F1" ∧ moveLine ⟨1⟩ [⟨3⟩] = "F1W3" ∧
      moveLine ⟨1⟩ [⟨3⟩, ⟨5⟩] = "F1W3W5" := by
    decide +kernel
  obtain ⟨hfleet, haction, hfirst, hnext, -, hsend⟩ :=
    legal_moves_offered built_demo (List.cons_ne_nil _ _) hvalid
  have hsecond := hnext [⟨3⟩] ⟨5⟩ [] rfl (List.cons_ne_nil _ _)
  simp only [List.singleton_append, htexts] at hfleet haction hfirst hsecond hsend
  exact ⟨hfleet, haction, htexts.2.1 ▸ hfirst ⟨3⟩ [⟨5⟩] rfl, hsecond, hsend 10 hroom⟩

end Snapshot

end FleetOrders
