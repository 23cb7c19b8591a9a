/-
FleetOrders.Proofs.SuggestionTexts — what the suggestions of each stage
read.

A suggestion repeats the first tokens of a line and puts words behind them.

* `Adds` — the suggestion is a text with given words behind it. For each
  list of suggestions there is one lemma that says which words those are.
* `Leads.spells_of_adds` — so the suggestion spells the words of the
  tokens and then its own.
* `facts_of_mem_suggestions`, `mem_suggestions` — a suggestion for a line is
  the submission of its check, or comes from its stage.
-/
import FleetOrders.Proofs.Feedback
import FleetOrders.Proofs.Retyping
import FleetOrders.Proofs.Staging

namespace FleetOrders

open Text (decimal)

/-- The suggestion is the text with the words behind it. -/
def Adds (base : String) (ws : List Word) (x : Suggestion) : Prop :=
  x.text.toList = base.toList ++ ws.flatMap Word.chars

theorem Adds.spells {base : String} {vs ws : List Word} {x : Suggestion} (h : Adds base ws x)
    (hbase : Spells vs base.toList) : Spells (vs ++ ws) x.text.toList := by
  rw [show x.text.toList = _ from h]
  exact hbase.append (spells_chars ws)

/-- A suggestion that adds words to the first tokens of a line spells the
words of those tokens, and then its own. -/
theorem Leads.spells_of_adds {vs ws : List Word} {ts rest : List Token} {x : Suggestion}
    (h : Leads vs ts rest) (hsound : ∀ t ∈ ts, t.Sound)
    (hx : Adds ((Typed.mk ts).upTo vs.length) ws x) : Spells (vs ++ ws) x.text.toList :=
  hx.spells (h.spells_upTo hsound)

/-! ## Pieces of suggestions -/

namespace Suggestion

variable {base : String} {x : Suggestion}

theorem adds_of_text_eq {text : String} {ws : List Word} (hx : x.text = base ++ text)
    (htext : text.toList = ws.flatMap Word.chars) : Adds base ws x := by
  rw [Adds, hx, String.toList_append, htext]

theorem adds_fleet {f : FleetId} (hx : x.text = base ++ f.text) : Adds base f.words x :=
  adds_of_text_eq hx f.toList_text

theorem adds_of_mem_amounts {available : UInt32} (h : x ∈ amounts base available) :
    ∃ n : UInt32, Adds base [.number n] x := by
  have hnumber : ∀ {n : UInt32} {y : Suggestion}, y.text = base ++ decimal n.toNat →
      Adds base [.number n] y := fun hy => adds_of_text_eq hy (by simp [decimal, Word.chars])
  rcases List.mem_append.mp h with h | h
  · unfold wholeAmount at h
    split at h
    · cases h
    · obtain rfl := List.mem_singleton.mp h
      exact ⟨available, hnumber rfl⟩
  · unfold halfAmount at h
    dsimp only at h
    split at h
    · cases h
    · obtain rfl := List.mem_singleton.mp h
      exact ⟨available / 2, hnumber rfl⟩

theorem kind_of_mem_amounts {available : UInt32} (h : x ∈ amounts base available) :
    x.kind = .amount := by
  rcases List.mem_append.mp h with h | h
  · unfold wholeAmount at h
    split at h
    · cases h
    · obtain rfl := List.mem_singleton.mp h
      rfl
  · unfold halfAmount at h
    dsimp only at h
    split at h
    · cases h
    · obtain rfl := List.mem_singleton.mp h
      rfl

theorem adds_of_mem_fleetActions (h : x ∈ fleetActions base) :
    ∃ s : Sign, (s = .worldMark ∨ s = .transfer ∨ s = .attack) ∧ Adds base [.sign s] x := by
  simp only [fleetActions, List.mem_cons, List.not_mem_nil, or_false] at h
  rcases h with rfl | rfl | rfl
  · exact ⟨.worldMark, .inl rfl, adds_of_text_eq rfl rfl⟩
  · exact ⟨.transfer, .inr (.inl rfl), adds_of_text_eq rfl rfl⟩
  · exact ⟨.attack, .inr (.inr rfl), adds_of_text_eq rfl rfl⟩

theorem adds_buildAction (base : String) : Adds base [.sign .build] (buildAction base) :=
  adds_of_text_eq rfl rfl

theorem mem_longerThan {typed : String} {found : List Suggestion} (h : x ∈ longerThan typed found) :
    x ∈ found ∧ Text.isHeadOf typed x.text = true := by
  obtain ⟨hx, hkeep⟩ := List.mem_filter.mp h
  rw [Bool.and_eq_true] at hkeep
  exact ⟨hx, hkeep.2⟩

end Suggestion

/-! ## Places in an order -/

namespace Snapshot

variable {s : Snapshot} {base : String} {x : Suggestion}

/-- Hops are offered along the connections of the map. -/
theorem adds_of_mem_hopsFrom {source : WorldId} (h : x ∈ s.hopsFrom base source) :
    ∃ w : WorldId, s.Hop source w ∧ Adds base w.words x := by
  unfold hopsFrom at h
  split at h
  · cases h
  · rename_i here hhere
    obtain ⟨w, hw, rfl⟩ := List.mem_map.mp h
    exact ⟨w, ⟨here, hhere, hw⟩, Suggestion.adds_of_text_eq rfl w.toList_text⟩

theorem kind_of_mem_hopsFrom {source : WorldId} (h : x ∈ s.hopsFrom base source) :
    x.kind = .world := by
  unfold hopsFrom at h
  split at h
  · cases h
  · obtain ⟨w, -, rfl⟩ := List.mem_map.mp h
    rfl

theorem kind_of_mem_nextHops {f : Fleet} {hops : List WorldId}
    (h : x ∈ s.nextHops f hops base) : x.kind = .world := by
  unfold nextHops at h
  split at h
  · exact kind_of_mem_hopsFrom h
  · cases h

theorem adds_of_mem_nextHops {f : Fleet} {hops : List WorldId}
    (h : x ∈ s.nextHops f hops base) :
    ∃ source w, walkEnd f hops = some source ∧ s.Hop source w ∧ Adds base (WorldId.words w) x := by
  unfold nextHops at h
  split at h
  · rename_i source hsource
    obtain ⟨w, hhop, hadds⟩ := adds_of_mem_hopsFrom h
    exact ⟨source, w, hsource, hhop, hadds⟩
  · cases h

/-- Longer hops take the place of the last hop typed. -/
theorem mem_nextHops_of_mem_longerHops {f : Fleet} {t : Typed} (h : x ∈ s.longerHops f t) :
    t.hops ≠ [] ∧ x ∈ s.nextHops f t.hops.dropLast (t.upTo (t.count - 2)) := by
  unfold longerHops at h
  split at h
  · cases h
  · rename_i hne
    exact ⟨hne, (Suggestion.mem_longerThan h).1⟩

theorem exists_of_mem_noteWalk {f : Fleet} {hops : List WorldId} {found : List Suggestion}
    (h : x ∈ noteWalk f hops found) : ∃ y ∈ found, x.text = y.text ∧ x.kind = y.kind := by
  unfold noteWalk at h
  split at h
  · cases h
  · rename_i first rest
    split at h
    · exact ⟨x, h, rfl, rfl⟩
    · exact ⟨x, h, rfl, rfl⟩
    · rcases List.mem_cons.mp h with rfl | h
      · exact ⟨first, List.mem_cons_self, rfl, rfl⟩
      · exact ⟨x, List.mem_cons_of_mem first h, rfl, rfl⟩

/-- The suggestion sends ships to a garrison or to one of the fleets. -/
def OffersShips (base : String) (fleets : List Fleet) (x : Suggestion) : Prop :=
  x.kind = .target ∧ ∃ d : Destination, Adds base d.words x ∧
    ∀ id, d = .fleet id → ∃ g ∈ fleets, g.id = id

/-- Ships go to the garrisons of a world or to a fleet. -/
theorem offersShips_of_mem_targets {here there : String} {fleets : List Fleet}
    {note : Fleet → String}
    (h : x ∈ Suggestion.target (base ++ "I") here :: Suggestion.target (base ++ "P") there ::
      fleets.map fun g => Suggestion.target (base ++ g.id.text) (note g)) :
    OffersShips base fleets x := by
  rcases List.mem_cons.mp h with rfl | h
  · exact ⟨rfl, .industry, Suggestion.adds_of_text_eq rfl rfl, nofun⟩
  rcases List.mem_cons.mp h with rfl | h
  · exact ⟨rfl, .population, Suggestion.adds_of_text_eq rfl rfl, nofun⟩
  · obtain ⟨g, hg, rfl⟩ := List.mem_map.mp h
    refine ⟨rfl, .fleet g.id, Suggestion.adds_fleet rfl, fun id hid => ?_⟩
    exact ⟨g, hg, Destination.fleet.inj hid⟩

/-- Ships of a stationed fleet go to the world under it or to a fleet of the
player around it. -/
theorem offersShips_of_mem_transferTargets {fleet : FleetId}
    (h : x ∈ s.transferTargets fleet base) :
    ∃ f here, s.fleet? fleet = some f ∧ f.station = some here ∧
      OffersShips base ((s.neighbours f).filter fun g => s.isMine g.owner) x := by
  unfold transferTargets at h
  split at h
  · cases h
  · rename_i f hf
    split at h
    · cases h
    · rename_i here hhere
      exact ⟨f, here, hf, hhere, offersShips_of_mem_targets h⟩

theorem adds_of_mem_transferTargets {fleet : FleetId} (h : x ∈ s.transferTargets fleet base) :
    ∃ d : Destination, Adds base d.words x := by
  obtain ⟨-, -, -, -, -, d, hadds, -⟩ := offersShips_of_mem_transferTargets h
  exact ⟨d, hadds⟩

/-- Built ships go to the world itself or to a fleet of the player at it. -/
theorem offersShips_of_mem_buildTargets {world : WorldId} (h : x ∈ s.buildTargets world base) :
    OffersShips base ((s.fleetsAt world).filter fun g => s.isMine g.owner) x :=
  offersShips_of_mem_targets h

theorem adds_of_mem_buildTargets {world : WorldId} (h : x ∈ s.buildTargets world base) :
    ∃ d : Destination, Adds base d.words x := by
  obtain ⟨-, d, hadds, -⟩ := offersShips_of_mem_buildTargets h
  exact ⟨d, hadds⟩

/-- An attack is an ambush, or fires at the world or at a fleet around that
is not the player's. -/
theorem facts_of_mem_attackTargets {fleet : FleetId} (h : x ∈ s.attackTargets fleet base) :
    x.kind = .target ∧ (Adds base [] x ∨ (∃ r : Resource, Adds base r.words x) ∨
      ∃ f g, s.fleet? fleet = some f ∧ g ∈ s.neighbours f ∧ s.isMine g.owner = false ∧
        Adds base g.id.words x) := by
  unfold attackTargets at h
  rcases List.mem_cons.mp h with rfl | h
  · exact ⟨rfl, .inl (by simp [Adds, Suggestion.target, Suggestion.plain])⟩
  rcases List.mem_cons.mp h with rfl | h
  · exact ⟨rfl, .inr (.inl ⟨.population, Suggestion.adds_of_text_eq rfl rfl⟩)⟩
  rcases List.mem_cons.mp h with rfl | h
  · exact ⟨rfl, .inr (.inl ⟨.industry, Suggestion.adds_of_text_eq rfl rfl⟩)⟩
  split at h
  · cases h
  · rename_i f hf
    obtain ⟨g, hg, rfl⟩ := List.mem_map.mp h
    obtain ⟨hnear, hforeign⟩ := List.mem_filter.mp hg
    exact ⟨rfl, .inr (.inr ⟨f, g, hf, hnear, by simpa using hforeign,
      Suggestion.adds_fleet rfl⟩)⟩

theorem adds_of_mem_attackTargets {fleet : FleetId} (h : x ∈ s.attackTargets fleet base) :
    Adds base [] x ∨ (∃ r : Resource, Adds base r.words x) ∨
      ∃ g : FleetId, Adds base g.words x :=
  (facts_of_mem_attackTargets h).2.imp id
    (Or.imp id fun ⟨_, g, _, _, _, hadds⟩ => ⟨g.id, hadds⟩)

end Snapshot

/-! ## Tokens at their places -/

/-- A word at the place where the rest starts goes to the words before
it. -/
theorem Leads.snoc {vs : List Word} {ts : List Token} {i : Nat} (h : Leads vs ts (ts.drop i))
    {w : Word} {t : Token} (ht : ts[i]? = some t) (hfits : w.Fits t) :
    Leads (vs ++ [w]) ts (ts.drop (i + 1)) := by
  obtain ⟨hi, hget⟩ := List.getElem?_eq_some_iff.mp ht
  refine leads_append.mpr ⟨ts.drop i, h, t, ts.drop (i + 1), ?_, hfits, rfl⟩
  rw [List.drop_eq_getElem_cons hi, hget]

theorem Leads.snoc_sign {vs : List Word} {ts : List Token} {i : Nat}
    (h : Leads vs ts (ts.drop i)) {s : Sign} (hs : (ts.map Token.kind)[i]? = some s.kind) :
    Leads (vs ++ [.sign s]) ts (ts.drop (i + 1)) := by
  rw [List.getElem?_map, Option.map_eq_some_iff] at hs
  obtain ⟨t, ht, hkind⟩ := hs
  exact h.snoc ht hkind

namespace Typed

/-- The number at a place is a word there. -/
theorem number?_eq_some_iff {t : Typed} {i : Nat} {n : UInt32} :
    t.number? i = some n ↔ ∃ u, t.tokens[i]? = some u ∧ (Word.number n).Fits u := by
  unfold number?
  cases t.tokens[i]? with
  | none => simp
  | some u => simp [Word.Fits]

/-- The hops typed are the worlds that the tokens start with. -/
theorem leads_worldPairs (ts : List Token) :
    Leads ((worldPairs ts).flatMap WorldId.words) ts (ts.drop (2 * (worldPairs ts).length)) := by
  fun_induction worldPairs ts with
  | case1 mark digits rest hkinds n hn ih =>
    exact Reading.leads_hop_iff.mpr ⟨mark, digits, rest, rfl, hkinds.1, ⟨hkinds.2, hn⟩, ih⟩
  | case2 => rfl
  | case3 => rfl
  | case4 => rfl

end Typed

/-- A line starts with a mark and a number. -/
theorem leads_mark {ts : List Token} {s : Sign} {n : UInt32}
    (hmark : (ts.map Token.kind).head? = some s.kind)
    (hn : (Typed.mk ts).number? 1 = some n) : Leads [.sign s, .number n] ts (ts.drop 2) := by
  obtain ⟨u, hu, hfits⟩ := Typed.number?_eq_some_iff.mp hn
  have hnil : Leads [] ts (ts.drop 0) := rfl
  rw [List.head?_eq_getElem?] at hmark
  exact (hnil.snoc_sign hmark).snoc hu hfits

/-! ## Orders to a fleet -/

namespace Snapshot

variable {s : Snapshot} {x : Suggestion} {fleet : FleetId} {ts : List Token}

theorem length_flatMap_words (path : List WorldId) :
    (path.flatMap WorldId.words).length = 2 * path.length := by
  induction path with
  | nil => rfl
  | cons w path ih =>
    rw [List.flatMap_cons, List.length_append, ih, WorldId.words]
    simp only [List.length_cons, List.length_nil]
    omega

/-- A hop that is offered goes on from the hops typed, or from those before
the last. -/
theorem spells_of_mem_nextHops (hfleet : Leads fleet.words ts (ts.drop 2))
    (hsound : ∀ t ∈ ts, t.Sound) {f : Fleet} {path : List WorldId}
    (hpath : path <+: (Typed.mk ts).hops)
    (h : x ∈ s.nextHops f path ((Typed.mk ts).upTo (2 + 2 * path.length))) :
    ∃ source w, walkEnd f path = some source ∧ s.Hop source w ∧
      Spells (fleet.words ++ (path ++ [w]).flatMap WorldId.words) x.text.toList := by
  obtain ⟨source, w, hsource, hhop, hadds⟩ := adds_of_mem_nextHops h
  refine ⟨source, w, hsource, hhop, ?_⟩
  obtain ⟨more, hmore⟩ := hpath
  have hall := leads_append.mpr ⟨_, hfleet, Typed.leads_worldPairs (ts.drop 2)⟩
  rw [show Typed.worldPairs (ts.drop 2) = (Typed.mk ts).hops from rfl, ← hmore,
    List.flatMap_append, ← List.append_assoc] at hall
  obtain ⟨_, hleads, -⟩ := leads_append.mp hall
  have hlength : (fleet.words ++ path.flatMap WorldId.words).length = 2 + 2 * path.length := by
    rw [List.length_append, length_flatMap_words]
    rfl
  rw [← hlength] at hadds
  simpa using hleads.spells_of_adds hsound hadds

/-- What is offered for a path goes on from the hops typed, or has another
hop in the place of the last. -/
theorem spells_of_mem_pathStage (hfleet : Leads fleet.words ts (ts.drop 2))
    (hsound : ∀ t ∈ ts, t.Sound) (h : x ∈ s.pathStage fleet ⟨ts⟩) :
    ∃ f path source w, s.fleet? fleet = some f ∧ path <+: (Typed.mk ts).hops ∧
      walkEnd f path = some source ∧ s.Hop source w ∧
      Spells (fleet.words ++ (path ++ [w]).flatMap WorldId.words) x.text.toList := by
  unfold pathStage at h
  split at h
  · cases h
  rename_i f hf
  have hoffered : ∀ {path : List WorldId} {y : Suggestion}, path <+: (Typed.mk ts).hops →
      y ∈ s.nextHops f path ((Typed.mk ts).upTo (2 + 2 * path.length)) → x.text = y.text →
      ∃ f path source w, s.fleet? fleet = some f ∧ path <+: (Typed.mk ts).hops ∧
        walkEnd f path = some source ∧ s.Hop source w ∧
        Spells (fleet.words ++ (path ++ [w]).flatMap WorldId.words) x.text.toList := by
    intro path y hpath hy htext
    obtain ⟨source, w, hfacts⟩ := spells_of_mem_nextHops hfleet hsound hpath hy
    exact ⟨f, path, source, w, hf, hpath, htext ▸ hfacts⟩
  dsimp only at h
  split at h
  · exact hoffered List.prefix_rfl h rfl
  split at h
  · cases h
  rename_i hcount
  rw [not_not] at hcount
  obtain ⟨y, hy, htext, -⟩ := exists_of_mem_noteWalk h
  rcases List.mem_append.mp hy with hy | hy
  · rw [Typed.text, hcount] at hy
    exact hoffered List.prefix_rfl hy htext
  · obtain ⟨hne, hy⟩ := mem_nextHops_of_mem_longerHops hy
    have hpos := List.length_pos_iff.mpr hne
    have hplace : (Typed.mk ts).count - 2 = 2 + 2 * (Typed.mk ts).hops.dropLast.length := by
      rw [List.length_dropLast]
      omega
    rw [hplace] at hy
    exact hoffered (List.dropLast_prefix _) hy htext

end Snapshot

/-! ## The suggestions for a line -/

theorem Typed.ofTokens_tokenize (line : String) :
    Typed.ofTokens (tokenize line) = ⟨lineTokens line⟩ := by
  obtain ⟨stop, htokens⟩ := exists_tokenize_eq line
  have hkeep : ∀ t ∈ lineTokens line, (!t.isEnd) = true :=
    fun t ht => by simp [(sound_of_mem_lineTokens ht).isEnd]
  rw [Typed.ofTokens, htokens, List.takeWhile_append_of_pos hkeep]
  simp [Token.atEnd, Token.isEnd]

/-- A suggestion for a line is the submission of its check, or comes from
the stage of the line. It is marked complete when its text is. -/
theorem facts_of_mem_suggestions {s : Snapshot} {limit : Nat} {line : String} {x : Suggestion}
    (h : x ∈ (s.analyze limit line).suggestions) :
    x.complete = isSubmittable x.text ∧
      ((∃ sub, s.check line = .ok sub ∧ x.text = sub.wire ∧ x.kind = .submit) ∨
        ∃ y ∈ s.staged limit line ⟨lineTokens line⟩ (Reading.live line).stage,
          x.text = y.text ∧ x.kind = y.kind) := by
  rw [suggestions_eq, submitSuggestion?_eq_check, Reading.live_tokens, Typed.ofTokens_tokenize] at h
  obtain ⟨y, hy, rfl⟩ := List.mem_map.mp h
  refine ⟨rfl, ?_⟩
  rcases List.mem_append.mp (mem_of_mem_distinctTexts (List.mem_of_mem_take hy)) with hy | hy
  · left
    cases hcheck : s.check line with
    | error e =>
      rw [hcheck] at hy
      cases hy
    | ok sub =>
      rw [hcheck] at hy
      obtain rfl := List.mem_singleton.mp hy
      obtain ⟨hkind, htext, -⟩ := Suggestion.ofSubmission_facts sub
      exact ⟨sub, rfl, htext, hkind⟩
  · exact .inr ⟨y, hy, rfl, rfl⟩

theorem mem_suggestions {s : Snapshot} {limit : Nat} {line : String} {x : Suggestion}
    (h : x ∈ (s.analyze limit line).suggestions) :
    (∃ sub, s.check line = .ok sub ∧ x.text = sub.wire) ∨
      ∃ y ∈ s.staged limit line ⟨lineTokens line⟩ (Reading.live line).stage, x.text = y.text := by
  obtain ⟨-, ⟨sub, hsub, htext, -⟩ | ⟨y, hy, htext, -⟩⟩ := facts_of_mem_suggestions h
  · exact .inl ⟨sub, hsub, htext⟩
  · exact .inr ⟨y, hy, htext⟩

end FleetOrders
