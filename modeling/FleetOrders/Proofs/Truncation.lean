/-
FleetOrders.Proofs.Truncation — the limit on suggestions cuts the end of the
list and changes nothing before it.

For an empty line the limit cuts twice: before suggestions of one text are
dropped, and after that. What the first cut takes away is missing when a
repeated text is dropped behind it. Nothing is dropped while no two openings have
one text, and none have where every world and fleet is filed under its own
number.

* `NoTextTwice` — all texts of a list are distinct. So are those that
  `distinctTexts` leaves, and where they are, it leaves everything.
* `Grouped` — the openings come in four groups with letters of their own, so
  that no two have one text (`Snapshot.Coherent.noTextTwice_openings`).
* `Snapshot.topLevel_eq_take` — sorting leaves the openings as they are.
* `Snapshot.Coherent.suggestions_eq_take` — the suggestions under a limit are
  the first ones of a list that does not depend on it.
* `limit_only_truncates` — the same for two limits; `exists_limit_that_drops`
  shows that it fails for a snapshot that files a fleet twice.
-/
import FleetOrders.Proofs.Indexing
import FleetOrders.Proofs.MoveCompletion

namespace FleetOrders

/-! ## Lists without repeated texts -/

/-- No two suggestions of the list have one text. -/
def NoTextTwice (found : List Suggestion) : Prop :=
  found.Pairwise fun x y => x.text ≠ y.text

namespace NoTextTwice

variable {found : List Suggestion}

theorem take (h : NoTextTwice found) (n : Nat) : NoTextTwice (found.take n) :=
  h.sublist (List.take_sublist n found)

/-- A change that leaves the texts alone. -/
theorem map (h : NoTextTwice found) {f : Suggestion → Suggestion} (hf : ∀ x, (f x).text = x.text) :
    NoTextTwice (found.map f) := by
  refine List.pairwise_map.mpr (h.imp fun hne => ?_)
  rw [hf, hf]
  exact hne

end NoTextTwice

/-- What is left has no text twice, and none of those seen before. -/
theorem noTextTwice_distinctTexts (seen : List String) (found : List Suggestion) :
    NoTextTwice (distinctTexts seen found) ∧ ∀ x ∈ distinctTexts seen found, x.text ∉ seen := by
  induction found generalizing seen with
  | nil => exact ⟨.nil, nofun⟩
  | cons x rest ih =>
    by_cases hseen : x.text ∈ seen
    · simpa [distinctTexts, hseen] using ih seen
    · obtain ⟨htwice, hnew⟩ := ih (x.text :: seen)
      have hkept : distinctTexts seen (x :: rest) = x :: distinctTexts (x.text :: seen) rest := by
        simp [distinctTexts, hseen]
      rw [hkept]
      refine ⟨List.pairwise_cons.mpr ⟨fun y hy hsame => ?_, htwice⟩, fun y hy => ?_⟩
      · exact hnew y hy (hsame ▸ List.mem_cons_self)
      · rcases List.mem_cons.mp hy with rfl | hy
        · exact hseen
        · exact fun hmem => hnew y hy (List.mem_cons_of_mem x.text hmem)

/-- Nothing is dropped from a list without repeated texts. -/
theorem NoTextTwice.distinctTexts_eq {seen : List String} {found : List Suggestion}
    (h : NoTextTwice found) (hseen : ∀ x ∈ found, x.text ∉ seen) :
    distinctTexts seen found = found := by
  induction found generalizing seen with
  | nil => rfl
  | cons x rest ih =>
    obtain ⟨hfirst, hrest⟩ := List.pairwise_cons.mp h
    have hnew : ∀ y ∈ rest, y.text ∉ x.text :: seen := by
      intro y hy hmem
      rcases List.mem_cons.mp hmem with hsame | hmem
      · exact hfirst y hy hsame.symm
      · exact hseen y (List.mem_cons_of_mem x hy) hmem
    simp [distinctTexts, hseen x List.mem_cons_self, ih hrest hnew]

/-! ## The texts of fleets and worlds -/

/-- The text of a mark and a number tells the number. -/
theorem number_eq_of_chars {s : Sign} {m n : UInt32}
    (h : [Word.sign s, .number m].flatMap Word.chars =
      [Word.sign s, .number n].flatMap Word.chars) : m = n := by
  simp only [Word.chars, List.flatMap_cons, List.flatMap_nil, List.append_nil,
    List.append_cancel_left_eq] at h
  exact Text.digits_injective h

theorem FleetId.text_injective {f g : FleetId} (h : f.text = g.text) : f = g := by
  rw [← String.toList_inj, f.toList_text, g.toList_text] at h
  exact FleetId.eq_of_number (number_eq_of_chars h)

theorem WorldId.text_injective {v w : WorldId} (h : v.text = w.text) : v = w := by
  rw [← String.toList_inj, v.toList_text, w.toList_text] at h
  exact WorldId.eq_of_number (number_eq_of_chars h)

theorem FleetId.head?_text (f : FleetId) : f.text.toList.head? = some 'F' := by
  rw [f.toList_text]
  rfl

theorem WorldId.head?_text (w : WorldId) : w.text.toList.head? = some 'W' := by
  rw [w.toList_text]
  rfl

/-! ## Openings -/

/-- The list has no text twice, and every text starts with one of the
letters. -/
structure Grouped (letters : List Char) (found : List Suggestion) : Prop where
  distinct : NoTextTwice found
  letters : ∀ x ∈ found, ∃ c ∈ letters, x.text.toList.head? = some c

/-- Groups with letters of their own, one behind the other. -/
theorem Grouped.append {as bs : List Char} {found more : List Suggestion} (h : Grouped as found)
    (hmore : Grouped bs more) (hletters : ∀ c ∈ as, c ∉ bs) :
    Grouped (as ++ bs) (found ++ more) := by
  refine ⟨List.pairwise_append.mpr ⟨h.distinct, hmore.distinct, fun x hx y hy hsame => ?_⟩,
    fun x hx => ?_⟩
  · obtain ⟨c, hc, hhead⟩ := h.letters x hx
    obtain ⟨d, hd, hother⟩ := hmore.letters y hy
    rw [← hsame, hhead] at hother
    exact hletters c hc (Option.some.inj hother ▸ hd)
  · rcases List.mem_append.mp hx with hx | hx
    · exact (h.letters x hx).imp fun _ => .imp_left (List.mem_append_left bs)
    · exact (hmore.letters x hx).imp fun _ => .imp_left (List.mem_append_right as)

theorem grouped_map {α : Type} {as : List α} {suggestion : α → Suggestion} {letter : Char}
    (hdistinct : as.Pairwise fun a b => (suggestion a).text ≠ (suggestion b).text)
    (hletter : ∀ a, (suggestion a).text.toList.head? = some letter) :
    Grouped [letter] (as.map suggestion) := by
  refine ⟨List.pairwise_map.mpr hdistinct, fun x hx => ?_⟩
  obtain ⟨a, -, rfl⟩ := List.mem_map.mp hx
  exact ⟨letter, List.mem_singleton_self letter, hletter a⟩

theorem grouped_singleton {x : Suggestion} {letter : Char}
    (hletter : x.text.toList.head? = some letter) : Grouped [letter] [x] := by
  refine ⟨List.pairwise_singleton _ x, fun y hy => ?_⟩
  rw [List.mem_singleton.mp hy]
  exact ⟨letter, List.mem_singleton_self letter, hletter⟩

namespace Snapshot

variable {s : Snapshot}

/-- Fleets and worlds ascend, and `JOIN`, fleets, worlds and `TURN` are four
groups. -/
theorem Coherent.noTextTwice_openings (h : s.Coherent) : NoTextTwice s.openings := by
  have hjoin : Grouped ['J'] (if s.joined then [] else [Suggestion.joinKeyword.weighing 100]) := by
    cases s.joined with
    | true => exact ⟨.nil, nofun⟩
    | false => exact grouped_singleton rfl
  have hfleets : Grouped ['F'] (s.ownFleets.map fun f => (Suggestion.ofFleet f).weighing 10) := by
    refine grouped_map ((h.fleets_ascend.sublist List.filter_sublist).imp fun hlt hsame => ?_)
      fun f => f.id.head?_text
    exact UInt32.ne_of_lt hlt (congrArg FleetId.number (FleetId.text_injective hsame))
  have hworlds : Grouped ['W'] (s.ownWorlds.map fun w => (s.suggestWorld w).weighing 8) := by
    refine grouped_map ((h.worlds_ascend.sublist List.filter_sublist).imp fun hlt hsame => ?_)
      fun w => w.id.head?_text
    exact UInt32.ne_of_lt hlt (congrArg WorldId.number (WorldId.text_injective hsame))
  have hturn : Grouped ['T'] [Suggestion.turnKeyword.weighing 5] :=
    grouped_singleton rfl
  exact (((hjoin.append hfleets (by simp)).append hworlds (by simp)).append hturn
    (by simp)).distinct

/-- The openings are found by descending weight, so that sorting leaves them as
they are. -/
theorem topLevel_eq_take (s : Snapshot) (limit : Nat) :
    s.topLevel limit = s.openings.take limit := by
  have hsorted : s.openings.Pairwise fun a b => b.priority.getD 0 ≤ a.priority.getD 0 := by
    cases hjoined : s.joined <;>
      simp [openings, hjoined, List.pairwise_append, List.pairwise_map, Suggestion.weighing, or_imp,
        forall_and, List.pairwise_of_forall]
  rw [topLevel, List.mergeSort_of_pairwise (by simpa using hsorted)]

/-! ## The list that is cut -/

theorem noTextTwice_suggestions (s : Snapshot) (limit : Nat) (line : String) :
    NoTextTwice (s.analyze limit line).suggestions :=
  ((noTextTwice_distinctTexts [] _).1.take limit).map fun _ => rfl

/-- For an empty line the limit cuts before repeated texts are dropped, and
again after that. -/
theorem suggestions_of_empty {line : String} (hstage : (Reading.live line).stage = .empty)
    (s : Snapshot) (limit : Nat) :
    (s.analyze limit line).suggestions =
      ((distinctTexts [] (s.openings.take limit)).take limit).map fun x =>
        { x with complete := isSubmittable x.text } := by
  have hcommand := ((Reading.live_empty_iff line).mpr hstage).1
  have hnothing : ∀ v, submitSuggestion? (.live line) v = none := by
    intro v
    simp [submitSuggestion?, hcommand]
  rw [suggestions_eq, hnothing, hstage, staged, topLevel_eq_take]
  rfl

/-- The suggestions under a limit are the first of all that are found. -/
theorem Coherent.suggestions_eq_take (h : s.Coherent) (limit : Nat) (line : String) :
    (s.analyze limit line).suggestions =
      ((distinctTexts [] (s.candidates line)).map fun x =>
        { x with complete := isSubmittable x.text }).take limit := by
  rw [← List.map_take]
  cases hstage : (Reading.live line).stage with
  | empty =>
    have hcommand := ((Reading.live_empty_iff line).mpr hstage).1
    have hall : s.candidates line = s.openings := by
      simp [candidates, submitSuggestion?, hcommand, hstage, staged, topLevel_eq_take]
    have hkept : ∀ n, distinctTexts [] (s.openings.take n) = s.openings.take n := fun n =>
      (h.noTextTwice_openings.take n).distinctTexts_eq (by simp)
    rw [suggestions_of_empty hstage, hall, hkept, List.take_take, Nat.min_self,
      h.noTextTwice_openings.distinctTexts_eq (by simp)]
  | _ =>
    rw [suggestions_eq, candidates, hstage]
    rfl

end Snapshot

/-- No list of suggestions has a text twice. Where the snapshot was put together
entity by entity, the suggestions under a limit are the first ones of those under
any larger limit, the same in everything. -/
theorem limit_only_truncates (s : Snapshot) (line : String) :
    (∀ limit, (s.analyze limit line).suggestions.Pairwise fun x y => x.text ≠ y.text) ∧
    (s.Built → ∀ n m, n ≤ m →
      (s.analyze n line).suggestions = (s.analyze m line).suggestions.take n) := by
  refine ⟨fun limit => Snapshot.noTextTwice_suggestions s limit line, fun h n m hnm => ?_⟩
  rw [h.coherent.suggestions_eq_take, h.coherent.suggestions_eq_take, List.take_take,
    Nat.min_eq_left hnm]

/-- On the demonstration map, for an empty line and for a fleet that may be sent
somewhere. -/
theorem limit_only_truncates_demo :
    (Snapshot.demo.analyze 3 "").suggestions.map Suggestion.text = ["JOIN ", "F1", "F2"] ∧
    (Snapshot.demo.analyze 2 "f1w3").suggestions.map Suggestion.text = ["F1W3", "F1W3W1"] := by
  have hcut : ∀ line n m, n ≤ m →
      (Snapshot.demo.analyze n line).suggestions.map Suggestion.text =
        ((Snapshot.demo.analyze m line).suggestions.map Suggestion.text).take n := by
    intro line n m hnm
    rw [(limit_only_truncates .demo line).2 Snapshot.built_demo n m hnm, List.map_take]
  have hempty : (Snapshot.demo.analyze 10 "").suggestions.map Suggestion.text =
      ["JOIN ", "F1", "F2", "F3", "F4", "W1", "W3", "TURN"] := by
    rw [Snapshot.suggestions_of_empty rfl]
    decide +kernel
  have hmove : (Snapshot.demo.analyze 10 "f1w3").suggestions.map Suggestion.text =
      ["F1W3", "F1W3W1", "F1W3W4", "F1W3W5"] := by decide +kernel
  rw [hcut "" 3 10 (by decide), hcut "f1w3" 2 10 (by decide), hempty, hmove]
  exact ⟨rfl, rfl⟩

/-- Where one fleet is filed under two numbers, a limit can cut too soon. -/
theorem exists_limit_that_drops : ∃ s : Snapshot,
    (s.analyze 2 "").suggestions.map Suggestion.text = ["F1"] ∧
      (s.analyze 3 "").suggestions.map Suggestion.text = ["F1", "TURN"] := by
  let f : Fleet := ⟨⟨1⟩, some "Me", none, 0, 0⟩
  refine ⟨⟨"Me", true, .empty, (Roster.empty.insert 1 f).insert 2 f, []⟩, ?_, ?_⟩
  · rw [Snapshot.suggestions_of_empty rfl]
    decide +kernel
  · rw [Snapshot.suggestions_of_empty rfl]
    decide +kernel

end FleetOrders
