/-
FleetOrders.Proofs.TypedPaths — suggestions go on from the path that was
read.

The path of a move is found twice in the tokens of a line. Reading takes hops
for as long as a mark follows; completing goes over the tokens behind the
number of the fleet in pairs, and stops at the first pair that is no hop.
Where a move was read, what stands behind its path starts with no mark, so
the pairs end there as well (`Typed.hops_of_leads`).

* `Snapshot.PathCourse` — the ways to complete a path, and what is offered on
  each. Hops that take the place of the last are looked for on one of them,
  and on that one there is a hop to be taken back.
-/
import FleetOrders.Proofs.HopSuggestions

namespace FleetOrders

/-! ## Completing a path -/

namespace Snapshot

/-- The ways to complete the path of a fleet, in the order in which they are
tried, and what is offered on each. The last hop is taken back on the last of
them only: there the tokens are two more than those before it. -/
inductive PathCourse (s : Snapshot) (fleet : FleetId) (t : Typed) : List Suggestion → Prop where
  | unknownFleet : s.fleet? fleet = none → PathCourse s fleet t []
  | bareWorld {f : Fleet} : s.fleet? fleet = some f →
      t.count = 2 + 2 * t.hops.length + 1 → t.endsInBareWorld = true →
      PathCourse s fleet t (s.nextHops f t.hops (t.upTo (2 + 2 * t.hops.length)))
  | leftOver {f : Fleet} : s.fleet? fleet = some f → t.count ≠ 2 + 2 * t.hops.length →
      ¬ (t.count = 2 + 2 * t.hops.length + 1 ∧ t.endsInBareWorld = true) →
      PathCourse s fleet t []
  | noHop {f : Fleet} : s.fleet? fleet = some f → t.count = 2 → t.hops = [] →
      PathCourse s fleet t (s.nextHops f [] t.text)
  | wholeHops {f : Fleet} {before : Nat} : s.fleet? fleet = some f →
      t.count = 2 + 2 * t.hops.length → t.hops ≠ [] → t.count = before + 2 →
      before = 2 + 2 * t.hops.dropLast.length →
      PathCourse s fleet t (noteWalk f t.hops (s.nextHops f t.hops t.text ++
        Suggestion.longerThan t.text (s.nextHops f t.hops.dropLast (t.upTo before))))

/-- Without hops there is none to be taken back. -/
theorem longerHops_of_no_hop {s : Snapshot} {f : Fleet} {t : Typed} (h : t.hops = []) :
    s.longerHops f t = [] := by
  rw [longerHops, h]

theorem longerHops_of_hops {s : Snapshot} {f : Fleet} {t : Typed} (h : t.hops ≠ []) :
    s.longerHops f t =
      Suggestion.longerThan t.text (s.nextHops f t.hops.dropLast (t.upTo (t.count - 2))) := by
  unfold longerHops
  split
  · contradiction
  · rfl

/-- Completing a path takes one of these ways. -/
theorem pathCourse_pathStage (s : Snapshot) (fleet : FleetId) (t : Typed) :
    s.PathCourse fleet t (s.pathStage fleet t) := by
  unfold pathStage
  cases hf : s.fleet? fleet with
  | none => exact .unknownFleet hf
  | some f =>
    dsimp only
    split
    · next hbare => exact .bareWorld hf hbare.1 hbare.2
    next hbare =>
    split
    · next hleft => exact .leftOver hf hleft hbare
    next hwhole =>
    rw [not_not] at hwhole
    by_cases hhops : t.hops = []
    · have hnote : ∀ found, noteWalk f [] found = found := fun found => by
        cases found <;> rfl
      rw [longerHops_of_no_hop hhops, hhops, List.append_nil, hnote]
      exact .noHop hf (by simpa [hhops] using hwhole) hhops
    · have hpos := List.length_pos_iff.mpr hhops
      rw [longerHops_of_hops hhops]
      refine .wholeHops hf hwhole hhops (Nat.sub_add_cancel ?_).symm ?_
      · omega
      · rw [List.length_dropLast]
        omega

end Snapshot

/-- Where a move was read from a line, whether or not tokens are left over, the
number that suggestions take for the fleet is that of the move and the hops
that they go on from are its path. The line is consumed when it has two tokens
for the fleet and two for each hop, and no more. And wherever completing a path
takes back the last hop, it takes two tokens from at least as many. -/
theorem path_read_twice :
    (∀ (line : String) (fleet : FleetId) (path : List WorldId),
      (Reading.live line).command = some (.move fleet path) →
      let t := Typed.ofTokens (Reading.live line).tokens
      t.number? 1 = some fleet.number ∧ t.hops = path ∧
        ((Reading.live line).consumedAll = true ↔ t.count = 2 + 2 * path.length)) ∧
    ∀ (s : Snapshot) (fleet : FleetId) (t : Typed), s.PathCourse fleet t (s.pathStage fleet t) := by
  refine ⟨fun line fleet path h => ?_, Snapshot.pathCourse_pathStage⟩
  obtain ⟨more, hleads, -, ⟨-, hstop⟩, hconsumed⟩ := Reading.exists_left_over_of_command h
  have hcount := Typed.count_of_leads hleads
  rw [Reading.live_tokens, Typed.ofTokens_tokenize]
  refine ⟨Typed.number?_of_leads hleads, Typed.hops_of_leads hleads hstop, ?_⟩
  rw [hconsumed, List.isEmpty_iff_length_eq_zero, hcount]
  omega

/-- A move with a token left over behind its path; and one that is whole, with
what is offered for it on the demonstration map. -/
theorem path_read_twice_demo :
    let t := Typed.ofTokens (Reading.live "f01 w3w04?").tokens
    let u := Typed.ofTokens (Reading.live "f1w3").tokens
    (t.number? 1 = some 1 ∧ t.hops = [⟨3⟩, ⟨4⟩] ∧ t.count = 7 ∧
      (Reading.live "f01 w3w04?").consumedAll = false) ∧
    (Reading.live "f1w3").consumedAll = true ∧
    Snapshot.demo.PathCourse ⟨1⟩ u (Snapshot.demo.pathStage ⟨1⟩ u) ∧
    (Snapshot.demo.pathStage ⟨1⟩ u).map Suggestion.text = ["F1W3W1", "F1W3W4", "F1W3W5"] := by
  have hlong : (Reading.live "f01 w3w04?").command = some (.move ⟨1⟩ [⟨3⟩, ⟨4⟩]) := by
    decide +kernel
  have hcount : (Typed.ofTokens (Reading.live "f01 w3w04?").tokens).count = 7 := by decide +kernel
  have hwhole : (Reading.live "f1w3").command = some (.move ⟨1⟩ [⟨3⟩]) := by decide +kernel
  obtain ⟨hnumber, hhops, hconsumed⟩ := path_read_twice.1 _ _ _ hlong
  refine ⟨⟨hnumber, hhops, hcount, ?_⟩, ?_, path_read_twice.2 _ _ _, by decide +kernel⟩
  · rw [Bool.eq_false_iff, Ne, hconsumed, hcount]
    decide
  · obtain ⟨-, -, hconsumed⟩ := path_read_twice.1 _ _ _ hwhole
    exact hconsumed.mpr (by decide +kernel)

end FleetOrders
