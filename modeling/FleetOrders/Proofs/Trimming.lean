/-
FleetOrders.Proofs.Trimming — what is left of a text without its outer
blanks.

* `BareEnds` — no blank stands at either end.
* `bareEnds_trim`, `trim_of_bareEnds` — trimming reaches that state and
  changes nothing in it; so a text is trimmed exactly when its ends are
  bare (`trim_eq_self_iff`).
* `trim_blanks_append`, `trim_append_blanks` — blanks put before or after a
  text are trimmed off again.
* `trim_append` — of two texts in a row that both hold more than blanks, the
  outer ends are trimmed.
-/
import FleetOrders.Text.Blank

namespace FleetOrders.Text

/-- No blank stands at either end of the text. -/
structure BareEnds (cs : List Char) : Prop where
  head : ∀ c ∈ cs.head?, isBlank c = false
  last : ∀ c ∈ cs.getLast?, isBlank c = false

/-! ## One end at a time -/

theorem trimStart_of_head {cs : List Char} (h : ∀ c ∈ cs.head?, isBlank c = false) :
    trimStart cs = cs := by
  cases cs with
  | nil => rfl
  | cons c cs => simp [trimStart, h c rfl]

theorem trimEnd_of_last {cs : List Char} (h : ∀ c ∈ cs.getLast?, isBlank c = false) :
    trimEnd cs = cs := by
  have hrev : trimStart cs.reverse = cs.reverse :=
    trimStart_of_head (by rw [List.head?_reverse]; exact h)
  rw [trimEnd, show cs.reverse.dropWhile isBlank = cs.reverse from hrev, List.reverse_reverse]

theorem head_trimStart (cs : List Char) : ∀ c ∈ (trimStart cs).head?, isBlank c = false := by
  intro c hc
  have h := List.head?_dropWhile_not isBlank cs
  rw [show cs.dropWhile isBlank = trimStart cs from rfl, Option.mem_def.mp hc] at h
  simpa using h

theorem last_trimEnd (cs : List Char) : ∀ c ∈ (trimEnd cs).getLast?, isBlank c = false := by
  intro c hc
  rw [trimEnd, List.getLast?_reverse] at hc
  exact head_trimStart cs.reverse c hc

theorem trimEnd_isPrefix (cs : List Char) : trimEnd cs <+: cs := by
  rw [trimEnd, ← List.reverse_suffix, List.reverse_reverse]
  exact List.dropWhile_suffix isBlank

/-! ## Both ends -/

/-- What is left after trimming has bare ends: cutting the end of a text
does not bring another character to its head. -/
theorem bareEnds_trim (cs : List Char) : BareEnds (trim cs) where
  head := by
    intro c hc
    obtain ⟨cut, hcut⟩ := trimEnd_isPrefix (trimStart cs)
    refine head_trimStart cs c ?_
    rw [← hcut, List.head?_append]
    rw [trim] at hc
    simp [Option.mem_def.mp hc]
  last := last_trimEnd (trimStart cs)

theorem trim_of_bareEnds {cs : List Char} (h : BareEnds cs) : trim cs = cs := by
  rw [trim, trimStart_of_head h.head, trimEnd_of_last h.last]

/-- A text is trimmed exactly when its ends are bare. -/
theorem trim_eq_self_iff {cs : List Char} : trim cs = cs ↔ BareEnds cs :=
  ⟨fun h => h ▸ bareEnds_trim cs, trim_of_bareEnds⟩

theorem bareEnds_of_forall {cs : List Char} (h : ∀ c ∈ cs, isBlank c = false) : BareEnds cs where
  head c hc := h c (List.mem_of_mem_head? hc)
  last c hc := h c (List.mem_of_getLast? hc)

/-- A trimmed text after anything that starts bare still has bare ends. -/
theorem bareEnds_cons_append {c : Char} {first rest : List Char} (hc : isBlank c = false)
    (hne : rest ≠ []) (hrest : BareEnds rest) : BareEnds (c :: first ++ rest) where
  head d hd := by
    rw [List.cons_append, List.head?_cons, Option.mem_def, Option.some.injEq] at hd
    exact hd ▸ hc
  last d hd := by
    refine hrest.last d ?_
    rw [List.getLast?_append, List.getLast?_eq_some_getLast hne] at hd
    rw [List.getLast?_eq_some_getLast hne]
    simpa using hd

/-- What has bare ends and is not empty stays at the head of a text. -/
theorem exists_trim_append {cs : List Char} (hne : cs ≠ []) (h : BareEnds cs) (rest : List Char) :
    ∃ more, trim (cs ++ rest) = cs ++ more := by
  have hstart : trimStart (cs ++ rest) = cs ++ rest := by
    obtain ⟨c, cs, rfl⟩ := List.exists_cons_of_ne_nil hne
    exact trimStart_of_head h.head
  have hend : cs.reverse.dropWhile isBlank = cs.reverse :=
    trimStart_of_head (by rw [List.head?_reverse]; exact h.last)
  rw [trim, hstart, trimEnd, List.reverse_append, List.dropWhile_append]
  split
  · exact ⟨[], by rw [hend, List.reverse_reverse, List.append_nil]⟩
  · exact ⟨_, by rw [List.reverse_append, List.reverse_reverse]⟩

/-! ## Texts in a row -/

section Blanks

variable {blanks : List Char} (h : ∀ c ∈ blanks, isBlank c = true)
include h

theorem trimStart_blanks_append (cs : List Char) : trimStart (blanks ++ cs) = trimStart cs :=
  List.dropWhile_append_of_pos h

theorem trimEnd_append_blanks (cs : List Char) : trimEnd (cs ++ blanks) = trimEnd cs := by
  have hback : (blanks.reverse ++ cs.reverse).dropWhile isBlank = cs.reverse.dropWhile isBlank :=
    trimStart_blanks_append (fun c hc => h c (List.mem_reverse.mp hc)) cs.reverse
  rw [trimEnd, trimEnd, List.reverse_append, hback]

theorem trim_blanks_append (cs : List Char) : trim (blanks ++ cs) = trim cs := by
  rw [trim, trim, trimStart_blanks_append h]

end Blanks

theorem trimStart_append {cs : List Char} (h : trimStart cs ≠ []) (ds : List Char) :
    trimStart (cs ++ ds) = trimStart cs ++ ds := by
  rw [trimStart, List.dropWhile_append, if_neg]
  · rfl
  · rwa [List.isEmpty_iff]

theorem trimEnd_append {ds : List Char} (h : trimEnd ds ≠ []) (cs : List Char) :
    trimEnd (cs ++ ds) = cs ++ trimEnd ds := by
  have hstart : trimStart ds.reverse ≠ [] := fun hnil => h (by
    rw [trimEnd, show ds.reverse.dropWhile isBlank = [] from hnil, List.reverse_nil])
  have hback : (ds.reverse ++ cs.reverse).dropWhile isBlank = trimStart ds.reverse ++ cs.reverse :=
    trimStart_append hstart cs.reverse
  rw [trimEnd, List.reverse_append, hback, List.reverse_append, List.reverse_reverse]
  rfl

/-- Nothing is left of a text exactly when it is all blanks. -/
theorem trimStart_eq_nil_iff {cs : List Char} :
    trimStart cs = [] ↔ ∀ c ∈ cs, isBlank c = true := by
  induction cs with
  | nil => simp [trimStart]
  | cons c cs ih =>
    rw [trimStart] at ih
    cases hc : isBlank c <;> simp [trimStart, hc, ih]

theorem trimEnd_eq_nil_iff {cs : List Char} : trimEnd cs = [] ↔ ∀ c ∈ cs, isBlank c = true := by
  rw [trimEnd, List.reverse_eq_nil_iff, show cs.reverse.dropWhile isBlank = trimStart cs.reverse
    from rfl, trimStart_eq_nil_iff]
  simp only [List.mem_reverse]

/-- Blanks after a text are trimmed off: they are all that is left of the
text, or they stand behind what is left. -/
theorem trim_append_blanks {blanks : List Char} (h : ∀ c ∈ blanks, isBlank c = true)
    (cs : List Char) : trim (cs ++ blanks) = trim cs := by
  by_cases hall : trimStart cs = []
  · have hcs := trimStart_eq_nil_iff.mp hall
    rw [trim_blanks_append hcs, trim, trim, hall, trimStart_eq_nil_iff.mpr h]
  · rw [trim, trim, trimStart_append hall, trimEnd_append_blanks h]

/-- Two texts that both hold more than blanks are trimmed at their outer
ends. -/
theorem trim_append {cs ds : List Char} (hcs : trimStart cs ≠ []) (hds : trimEnd ds ≠ []) :
    trim (cs ++ ds) = trimStart cs ++ trimEnd ds := by
  rw [trim, trimStart_append hcs, trimEnd_append hds]

/-- `trimmed` in terms of the characters. -/
theorem trimmed_eq_self_iff {s : String} : trimmed s = s ↔ BareEnds s.toList := by
  rw [← trim_eq_self_iff, trimmed]
  constructor
  · intro h
    rw [← String.toList_inj, String.toList_ofList] at h
    exact h
  · intro h
    rw [h, String.ofList_toList]

end FleetOrders.Text
