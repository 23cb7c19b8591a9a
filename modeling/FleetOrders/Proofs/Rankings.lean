/-
FleetOrders.Proofs.Rankings — what a score says, and the order of a ranking.

A score is a place in one of four tiers. Within the second, it grows with the
part of the candidate that the query covers; that part is never the whole,
since the whole is the first tier, so the growth stays below the next hundred.

* `Text.occursIn_iff` — a text stands in another when it is an infix of it.
* `Tier`, `tier_scoreFolded` — the tiers, and the tier of every score.
* `scoreFolded_mono` — who types more of a candidate finds it no worse.
* `ranked_perm`, `ranked_descends`, `ranked_filter` — a ranking has the
  candidates that match, best first, and those of one score in the order in
  which they came.
-/
import FleetOrders.Similarity
import Mathlib.Data.List.Infix

namespace FleetOrders

open Text (lowerCase occursIn)

theorem Text.occursIn_iff {text whole : List Char} :
    occursIn text whole = true ↔ text <:+: whole := by
  induction whole with
  | nil => simp [occursIn]
  | cons c rest ih =>
    rw [occursIn, Bool.or_eq_true, List.isPrefixOf_iff_prefix, ih, List.infix_cons_iff]

namespace Similarity

/-! ## Scores -/

variable {q r c : List Char}

/-- A query and a candidate in lower case, and the score that belongs to
them. -/
inductive Tier (q c : List Char) : Nat → Prop where
  | same : q = c → Tier q c 1000
  | opening {bonus : Nat} : q <+: c → q ≠ c → bonus ≤ 98 → Tier q c (500 + bonus)
  | inside : q ≠ [] → q <:+: c → ¬ q <+: c → Tier q c 100
  | apart : ¬ q <:+: c → Tier q c 0

/-- A proper beginning covers less than the whole. -/
theorem coverage_le (h : q <+: c) (hne : q ≠ c) : coverage q.length c.length ≤ 98 := by
  have hshorter : q.length < c.length :=
    Nat.lt_of_le_of_ne h.length_le fun hlength => hne (h.eq_of_length hlength)
  rw [coverage, ← Nat.lt_succ_iff]
  exact Nat.div_lt_of_lt_mul (by omega)

theorem coverage_mono (h : q <+: r) (total : Nat) :
    coverage q.length total ≤ coverage r.length total :=
  Nat.div_le_div_right (Nat.mul_le_mul_right 99 h.length_le)

theorem scoreFolded_opening (h : q <+: c) (hne : q ≠ c) :
    scoreFolded q c = 500 + coverage q.length c.length := by
  rw [scoreFolded, if_neg hne, if_pos (List.isPrefixOf_iff_prefix.mpr h), opening]

/-- Every score lies in the tier of its texts. -/
theorem tier_scoreFolded (q c : List Char) : Tier q c (scoreFolded q c) := by
  by_cases hsame : q = c
  · rw [scoreFolded, if_pos hsame]
    exact .same hsame
  by_cases hopens : q <+: c
  · rw [scoreFolded_opening hopens hsame]
    exact .opening hopens hsame (coverage_le hopens hsame)
  have hne : q ≠ [] := fun hnil => hopens (hnil ▸ List.nil_prefix)
  rw [scoreFolded, if_neg hsame, if_neg (mt List.isPrefixOf_iff_prefix.mp hopens)]
  simp only [Text.occursIn_iff]
  by_cases hinside : q <:+: c
  · rw [if_pos ⟨hne, hinside⟩]
    exact .inside hne hinside hopens
  · rw [if_neg fun h => hinside h.2]
    exact .apart hinside

/-- The tiers do not overlap, so a score tells how its texts match. -/
theorem Tier.facts {n : Nat} (h : Tier q c n) :
    (n = 1000 ↔ q = c) ∧ (500 ≤ n ∧ n ≤ 598 ↔ q <+: c ∧ q ≠ c) ∧
      (n = 100 ↔ q ≠ [] ∧ q <:+: c ∧ ¬ q <+: c) ∧ (n = 0 ↔ ¬ q <:+: c) := by
  cases h with
  | same hsame =>
    subst hsame
    simp
  | opening hopens hne hbonus =>
    have hinside := hopens.isInfix
    simp only [hopens, hne, hinside, not_true_eq_false, and_false, iff_false, ne_eq,
      not_false_eq_true, and_true, iff_true]
    omega
  | inside hne hinside hnot =>
    have hother : q ≠ c := fun h => hnot (h ▸ List.prefix_rfl)
    simp [hne, hinside, hnot, hother]
  | apart hapart =>
    have hother : q ≠ c := fun h => hapart (h ▸ List.infix_rfl)
    have hnot : ¬ q <+: c := fun h => hapart h.isInfix
    simp [hapart, hother, hnot]

theorem Tier.le {n : Nat} (h : Tier q c n) : n ≤ 1000 := by
  cases h <;> omega

/-- Of two beginnings of a candidate the longer one has no lower score. -/
theorem scoreFolded_mono (h : q <+: r) (hr : r <+: c) : scoreFolded q c ≤ scoreFolded r c := by
  by_cases hwhole : r = c
  · have hexact : scoreFolded r c = 1000 := if_pos hwhole
    rw [hexact]
    exact (tier_scoreFolded q c).le
  · have hpart : q ≠ c := by
      rintro rfl
      exact hwhole (hr.eq_of_length (Nat.le_antisymm hr.length_le h.length_le))
    rw [scoreFolded_opening (h.trans hr) hpart, scoreFolded_opening hr hwhole]
    exact Nat.add_le_add_left (coverage_mono h c.length) 500

/-! ## Rankings -/

section Descending

variable {α : Type} (key : α → Nat)

theorem descending_trans (a b c : α) (hab : decide (key b ≤ key a) = true)
    (hbc : decide (key c ≤ key b) = true) : decide (key c ≤ key a) = true := by
  rw [decide_eq_true_eq] at hab hbc ⊢
  exact Nat.le_trans hbc hab

theorem descending_total (a b : α) :
    (decide (key b ≤ key a) || decide (key a ≤ key b)) = true := by
  rw [Bool.or_eq_true, decide_eq_true_eq, decide_eq_true_eq]
  exact Nat.le_total (key b) (key a)

/-- Sorting by a descending key keeps the order of what has one key: in the
list it is in order already, and sorting keeps such a part as it is. -/
theorem filter_mergeSort (l : List α) (n : Nat) :
    (l.mergeSort fun a b => key b ≤ key a).filter (key · = n) = l.filter (key · = n) := by
  have hordered : (l.filter (key · = n)).Pairwise fun a b => decide (key b ≤ key a) = true := by
    refine List.pairwise_of_forall_mem_list fun a ha b hb => ?_
    simp only [List.mem_filter, decide_eq_true_eq] at ha hb ⊢
    rw [ha.2, hb.2]
  have hsub : (l.filter (key · = n)).Sublist (l.mergeSort fun a b => key b ≤ key a) :=
    List.sublist_mergeSort (descending_trans key) (descending_total key) hordered
      List.filter_sublist
  have hkept := hsub.filter (key · = n)
  rw [List.filter_filter, funext fun a => Bool.and_self (decide (key a = n))] at hkept
  have hlength := ((List.mergeSort_perm l fun a b => key b ≤ key a).filter (key · = n)).length_eq
  exact (hkept.eq_of_length hlength.symm).symm

end Descending

section Rankings

variable {α : Type} (query : String) (key : α → String) (candidates : List α)

/-- A ranking has the candidates of a positive score with their scores, each
as often as it was given. -/
theorem ranked_perm : (ranked query key candidates).Perm
    ((candidates.map fun c => (score query (key c), c)).filter fun p => 0 < p.1) :=
  List.mergeSort_perm _ _

theorem ranked_descends : (ranked query key candidates).Pairwise fun p r => r.1 ≤ p.1 := by
  have h := List.pairwise_mergeSort (descending_trans Prod.fst) (descending_total Prod.fst)
    ((candidates.map fun c => (score query (key c), c)).filter fun p => 0 < p.1)
  exact h.imp of_decide_eq_true

/-- The candidates of one score come in the order in which they were given. -/
theorem ranked_filter {n : Nat} (hn : 0 < n) :
    ((ranked query key candidates).filter (·.1 = n)).map (·.2) =
      candidates.filter fun c => score query (key c) = n := by
  have hpositive : ∀ m : Nat, (decide (m = n) && decide (0 < m)) = decide (m = n) := by
    intro m
    by_cases hm : m = n
    · simp [hm, hn]
    · simp [hm]
  rw [ranked, filter_mergeSort Prod.fst, List.filter_filter]
  simp only [hpositive]
  rw [List.filter_map, List.map_map]
  exact List.map_id _

end Rankings

end Similarity

/-- Between texts in Unicode lower case: a score of 1000 is that of the same
text; scores from 500 to 598 are those of texts that start with the query and
go on; 100 is that of texts which hold a query that is not empty elsewhere; all
else has the score zero. What starts with a longer beginning of a candidate
scores no lower. A ranking has the candidates that score at all, with their
scores and each as often as it was given, by descending score; those of one
score stay in the order in which they were given. -/
theorem scores_and_rankings :
    (∀ query candidate : String,
      let q := lowerCase query.toList
      let c := lowerCase candidate.toList
      let n := Similarity.score query candidate
      (n = 1000 ↔ q = c) ∧ (500 ≤ n ∧ n ≤ 598 ↔ q <+: c ∧ q ≠ c) ∧
        (n = 100 ↔ q ≠ [] ∧ q <:+: c ∧ ¬ q <+: c) ∧ (n = 0 ↔ ¬ q <:+: c)) ∧
    (∀ shorter longer candidate : String,
      lowerCase shorter.toList <+: lowerCase longer.toList →
      lowerCase longer.toList <+: lowerCase candidate.toList →
      Similarity.score shorter candidate ≤ Similarity.score longer candidate) ∧
    ∀ {α : Type} (query : String) (key : α → String) (candidates : List α),
      let found := Similarity.ranked query key candidates
      (∀ p ∈ found, p.1 = Similarity.score query (key p.2) ∧ 0 < p.1) ∧
        (found.map (·.2)).Perm
          (candidates.filter fun c => 0 < Similarity.score query (key c)) ∧
        (found.Pairwise fun p r => r.1 ≤ p.1) ∧
        ∀ n, 0 < n → (found.filter (·.1 = n)).map (·.2) =
          candidates.filter fun c => Similarity.score query (key c) = n := by
  refine ⟨fun query candidate => (Similarity.tier_scoreFolded _ _).facts,
    fun shorter longer candidate h hlonger => Similarity.scoreFolded_mono h hlonger,
    fun query key candidates => ⟨fun p hp => ?_, ?_,
      Similarity.ranked_descends query key candidates,
      fun n hn => Similarity.ranked_filter query key candidates hn⟩⟩
  · have hmem := (Similarity.ranked_perm query key candidates).mem_iff.mp hp
    obtain ⟨hscored, hpositive⟩ := List.mem_filter.mp hmem
    obtain ⟨c, -, rfl⟩ := List.mem_map.mp hscored
    exact ⟨rfl, of_decide_eq_true hpositive⟩
  · have h := (Similarity.ranked_perm query key candidates).map (·.2)
    rw [List.filter_map, List.map_map] at h
    simpa [Function.comp_def] using h

/-- Five letters of the name cover more of it than two, and the two names that
hold the letter behind their head stay as they came. -/
theorem scores_and_rankings_demo :
    lowerCase "ME".toList <+: lowerCase "merch".toList ∧
    lowerCase "merch".toList <+: lowerCase "Merchant".toList ∧
    Similarity.score "ME" "Merchant" ≤ Similarity.score "merch" "Merchant" ∧
    ((Similarity.ranked "A" id ["Bard", "Abe", "a", "Card"]).filter (·.1 = 100)).map (·.2) =
      ["Bard", "Card"] := by
  have hfirst : lowerCase "ME".toList <+: lowerCase "merch".toList := by decide +kernel
  have hsecond : lowerCase "merch".toList <+: lowerCase "Merchant".toList := by decide +kernel
  obtain ⟨-, hmono, hranked⟩ := scores_and_rankings
  obtain ⟨-, -, -, hkept⟩ := hranked "A" id ["Bard", "Abe", "a", "Card"]
  refine ⟨hfirst, hsecond, hmono "ME" "merch" "Merchant" hfirst hsecond, ?_⟩
  rw [hkept 100 (by decide)]
  decide +kernel

end FleetOrders
