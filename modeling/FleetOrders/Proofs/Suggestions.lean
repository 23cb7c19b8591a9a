/-
FleetOrders.Proofs.Suggestions — what the suggestions for a line are made
of.

* `mem_of_mem_ranked` — ranking takes its candidates from those it is given.
* `distinctTexts_cons`, `mem_of_mem_distinctTexts` — of suggestions with one
  text the first stays, and nothing is added.
* `NoSubmit` — no suggestion is the line itself, ready to be sent. So it is
  with the suggestions of every stage (`noSubmit_staged`): the line itself
  is offered by `submitSuggestion?` and by nothing else.
-/
import FleetOrders.Suggestion.Completion

namespace FleetOrders

/-! ## Lists of suggestions -/

theorem Similarity.mem_of_mem_ranked {α : Type} {query : String} {key : α → String}
    {candidates : List α} {p : Nat × α} (h : p ∈ ranked query key candidates) :
    p.2 ∈ candidates := by
  rw [ranked, List.mem_mergeSort] at h
  obtain ⟨c, hc, rfl⟩ := List.mem_map.mp (List.mem_filter.mp h).1
  exact hc

/-- The first suggestion of all always stays. -/
theorem distinctTexts_cons (x : Suggestion) (rest : List Suggestion) :
    distinctTexts [] (x :: rest) = x :: distinctTexts [x.text] rest := by
  simp [distinctTexts]

theorem mem_of_mem_distinctTexts {x : Suggestion} {seen : List String} {found : List Suggestion}
    (h : x ∈ distinctTexts seen found) : x ∈ found := by
  induction found generalizing seen with
  | nil => exact h
  | cons y rest ih =>
    rw [distinctTexts] at h
    split at h
    · exact List.mem_cons_of_mem y (ih h)
    · rcases List.mem_cons.mp h with rfl | h
      · exact List.mem_cons_self
      · exact List.mem_cons_of_mem y (ih h)

/-- None of the suggestions is the line itself, ready to be sent. -/
def NoSubmit (found : List Suggestion) : Prop :=
  ∀ x ∈ found, x.kind ≠ .submit

@[simp] theorem noSubmit_nil : NoSubmit [] := by
  simp [NoSubmit]

@[simp] theorem noSubmit_cons {x : Suggestion} {rest : List Suggestion} :
    NoSubmit (x :: rest) ↔ x.kind ≠ .submit ∧ NoSubmit rest := by
  simp [NoSubmit]

@[simp] theorem noSubmit_append {xs ys : List Suggestion} :
    NoSubmit (xs ++ ys) ↔ NoSubmit xs ∧ NoSubmit ys := by
  simp [NoSubmit, or_imp, forall_and]

theorem NoSubmit.of_subset {xs ys : List Suggestion} (h : NoSubmit ys)
    (hsub : ∀ x ∈ xs, x ∈ ys) : NoSubmit xs :=
  fun x hx => h x (hsub x hx)

theorem NoSubmit.filter {found : List Suggestion} (h : NoSubmit found) (keep : Suggestion → Bool) :
    NoSubmit (found.filter keep) :=
  h.of_subset fun _ hx => (List.mem_filter.mp hx).1

theorem noSubmit_map {α : Type} {f : α → Suggestion} (h : ∀ a, (f a).kind ≠ .submit)
    (as : List α) : NoSubmit (as.map f) := by
  intro x hx
  obtain ⟨a, -, rfl⟩ := List.mem_map.mp hx
  exact h a

theorem noSubmit_ranked {query : String} {key : Suggestion → String} {found : List Suggestion}
    (h : NoSubmit found) : NoSubmit ((Similarity.ranked query key found).map (·.2)) := by
  intro x hx
  obtain ⟨p, hp, rfl⟩ := List.mem_map.mp hx
  exact h p.2 (Similarity.mem_of_mem_ranked hp)

theorem Typed.noSubmit_keepExtending {t : Typed} {found : List Suggestion} (h : NoSubmit found) :
    NoSubmit (t.keepExtending found) :=
  h.filter _

/-! ## Pieces of suggestions -/

theorem noSubmit_amounts (base : String) (available : UInt32) :
    NoSubmit (Suggestion.amounts base available) := by
  rw [Suggestion.amounts, noSubmit_append]
  constructor
  · unfold Suggestion.wholeAmount
    split <;> simp [Suggestion.plain]
  · unfold Suggestion.halfAmount
    dsimp only
    split <;> simp [Suggestion.plain]

theorem Typed.noSubmit_longerAmounts (t : Typed) (available : UInt32) :
    NoSubmit (t.longerAmounts available) :=
  (noSubmit_amounts _ _).filter _

theorem noSubmit_fleetActions (base : String) : NoSubmit (Suggestion.fleetActions base) := by
  simp [Suggestion.fleetActions, Suggestion.action, Suggestion.plain]

theorem noSubmit_joinSuggestions (t : Typed) : NoSubmit (joinSuggestions t) := by
  have hall : NoSubmit (CharacterType.all.map Suggestion.ofCharacter) :=
    noSubmit_map (fun _ => SuggestionKind.noConfusion) _
  unfold joinSuggestions
  split
  · split
    · exact noSubmit_map (fun _ => SuggestionKind.noConfusion) _
    · exact hall
  · exact hall

namespace Snapshot

variable (s : Snapshot)

theorem noSubmit_hopsFrom (base : String) (source : WorldId) :
    NoSubmit (s.hopsFrom base source) := by
  unfold hopsFrom
  split
  · exact noSubmit_nil
  · exact noSubmit_map (fun _ => SuggestionKind.noConfusion) _

theorem noSubmit_nextHops (f : Fleet) (hops : List WorldId) (base : String) :
    NoSubmit (s.nextHops f hops base) := by
  unfold nextHops
  split
  · exact s.noSubmit_hopsFrom base _
  · exact noSubmit_nil

theorem noSubmit_longerHops (f : Fleet) (t : Typed) : NoSubmit (s.longerHops f t) := by
  unfold longerHops
  split
  · exact noSubmit_nil
  · exact (s.noSubmit_nextHops f _ _).filter _

theorem noSubmit_noteWalk {f : Fleet} {hops : List WorldId} {found : List Suggestion}
    (h : NoSubmit found) : NoSubmit (noteWalk f hops found) := by
  unfold noteWalk
  split
  · exact noSubmit_nil
  · split
    · exact h
    · exact h
    · simpa [Suggestion.describedAs] using h

/-! ## Stages -/

theorem noSubmit_fleetNumbers (t : Typed) : NoSubmit (s.fleetNumbers t) := by
  unfold fleetNumbers
  refine Typed.noSubmit_keepExtending (noSubmit_append.mpr ⟨?_, ?_⟩)
  · exact noSubmit_map (fun _ => SuggestionKind.noConfusion) _
  · split
    · exact noSubmit_nil
    · split
      · exact noSubmit_fleetActions _
      · exact noSubmit_nil

theorem noSubmit_fleetActionStage (fleet : FleetId) (t : Typed) :
    NoSubmit (s.fleetActionStage fleet t) := by
  unfold fleetActionStage
  split
  · split
    · exact s.noSubmit_hopsFrom _ _
    · exact noSubmit_fleetActions _
  · exact noSubmit_fleetActions _

theorem noSubmit_pathStage (fleet : FleetId) (t : Typed) : NoSubmit (s.pathStage fleet t) := by
  unfold pathStage
  split
  · exact noSubmit_nil
  · dsimp only
    split
    · exact s.noSubmit_nextHops _ _ _
    · split
      · exact noSubmit_nil
      · refine noSubmit_noteWalk (noSubmit_append.mpr ⟨?_, ?_⟩)
        · exact s.noSubmit_nextHops _ _ _
        · exact s.noSubmit_longerHops _ t

theorem noSubmit_transferTargets (fleet : FleetId) (base : String) :
    NoSubmit (s.transferTargets fleet base) := by
  unfold transferTargets
  split
  · exact noSubmit_nil
  · split
    · exact noSubmit_nil
    · simp only [noSubmit_cons]
      refine ⟨SuggestionKind.noConfusion, SuggestionKind.noConfusion, ?_⟩
      exact noSubmit_map (fun _ => SuggestionKind.noConfusion) _

theorem noSubmit_attackTargets (fleet : FleetId) (base : String) :
    NoSubmit (s.attackTargets fleet base) := by
  unfold attackTargets
  simp only [noSubmit_cons]
  refine ⟨SuggestionKind.noConfusion, SuggestionKind.noConfusion, SuggestionKind.noConfusion, ?_⟩
  split
  · exact noSubmit_nil
  · exact noSubmit_map (fun _ => SuggestionKind.noConfusion) _

theorem noSubmit_transferAmountStage (fleet : FleetId) (t : Typed) :
    NoSubmit (s.transferAmountStage fleet t) := by
  unfold transferAmountStage
  split
  · split
    · exact noSubmit_amounts _ _
    · exact noSubmit_nil
  · refine noSubmit_append.mpr ⟨s.noSubmit_transferTargets fleet _, ?_⟩
    split
    · exact t.noSubmit_longerAmounts _
    · exact noSubmit_nil

theorem noSubmit_fleetStage (stage : FleetStage) (t : Typed) :
    NoSubmit (s.fleetStage stage t) := by
  unfold fleetStage
  split
  · exact s.noSubmit_fleetNumbers t
  · exact noSubmit_nil
  · exact s.noSubmit_fleetActionStage _ t
  · exact Typed.noSubmit_keepExtending (s.noSubmit_pathStage _ t)
  · exact Typed.noSubmit_keepExtending (s.noSubmit_transferAmountStage _ t)
  · exact Typed.noSubmit_keepExtending (s.noSubmit_transferTargets _ _)
  · exact Typed.noSubmit_keepExtending (s.noSubmit_attackTargets _ _)
  · exact Typed.noSubmit_keepExtending (s.noSubmit_attackTargets _ _)

theorem noSubmit_worldNumbers (t : Typed) : NoSubmit (s.worldNumbers t) := by
  unfold worldNumbers
  refine Typed.noSubmit_keepExtending (noSubmit_append.mpr ⟨?_, ?_⟩)
  · exact noSubmit_map (fun _ => SuggestionKind.noConfusion) _
  · split
    · exact noSubmit_nil
    · split
      · simp [Suggestion.buildAction, Suggestion.action, Suggestion.plain]
      · exact noSubmit_nil

theorem noSubmit_buildTargets (world : WorldId) (base : String) :
    NoSubmit (s.buildTargets world base) := by
  unfold buildTargets
  simp only [noSubmit_cons]
  refine ⟨SuggestionKind.noConfusion, SuggestionKind.noConfusion, ?_⟩
  exact noSubmit_map (fun _ => SuggestionKind.noConfusion) _

theorem noSubmit_buildAmountStage (world : WorldId) (t : Typed) :
    NoSubmit (s.buildAmountStage world t) := by
  unfold buildAmountStage
  split
  · split
    · exact noSubmit_amounts _ _
    · exact noSubmit_nil
  · refine noSubmit_append.mpr ⟨s.noSubmit_buildTargets world _, ?_⟩
    split
    · exact t.noSubmit_longerAmounts _
    · exact noSubmit_nil

theorem noSubmit_worldStage (stage : WorldStage) (t : Typed) :
    NoSubmit (s.worldStage stage t) := by
  unfold worldStage
  split
  · exact s.noSubmit_worldNumbers t
  · exact noSubmit_nil
  · refine Typed.noSubmit_keepExtending ?_
    simp [Suggestion.buildAction, Suggestion.action, Suggestion.plain]
  · exact Typed.noSubmit_keepExtending (s.noSubmit_buildAmountStage _ t)
  · exact Typed.noSubmit_keepExtending (s.noSubmit_buildTargets _ _)

theorem noSubmit_openings : NoSubmit s.openings := by
  unfold openings
  simp only [noSubmit_append]
  refine ⟨⟨⟨?_, ?_⟩, ?_⟩, ?_⟩
  · split
    · exact noSubmit_nil
    · simp [Suggestion.weighing, Suggestion.joinKeyword, Suggestion.plain]
  · exact noSubmit_map (fun _ => SuggestionKind.noConfusion) _
  · exact noSubmit_map (fun _ => SuggestionKind.noConfusion) _
  · simp [Suggestion.weighing, Suggestion.turnKeyword, Suggestion.plain]

theorem noSubmit_topLevel (limit : Nat) : NoSubmit (s.topLevel limit) := by
  refine s.noSubmit_openings.of_subset fun x hx => ?_
  exact List.mem_mergeSort.mp (List.mem_of_mem_take hx)

theorem noSubmit_matching (line : String) : NoSubmit (s.matching line) := by
  refine noSubmit_ranked (noSubmit_append.mpr ⟨s.noSubmit_openings, ?_⟩)
  simp [Suggestion.joinKeyword, Suggestion.turnKeyword, Suggestion.plain]

/-- No stage offers the line itself. -/
theorem noSubmit_staged (limit : Nat) (line : String) (t : Typed) (stage : Stage) :
    NoSubmit (s.staged limit line t stage) := by
  cases stage with
  | empty => exact s.noSubmit_topLevel limit
  | fleet stage => exact s.noSubmit_fleetStage stage t
  | world stage => exact s.noSubmit_worldStage stage t
  | join => exact noSubmit_joinSuggestions t
  | turn => simp [staged, Suggestion.turnKeyword, Suggestion.plain]
  | unknown => exact s.noSubmit_matching line

end Snapshot

end FleetOrders
