/-
FleetOrders.Proofs.HistoryRuns — a history over whole runs.

`History.Ledger` is what a history is meant to be: it forgets nothing that
was added since it was last cleared, and it counts how deep the walk is
instead of keeping a place in a list that is cut at its front. Each action
leads from a history and its ledger to a history and its ledger
(`History.Follows.act`), so a run does (`History.Follows.run`), and
`History.run_follows_ledger` says what can be seen of that.

* `History.getLast?_destutter`, `History.destutter_concat` — a list without
  repeats grows at its end.
* `History.newest_remembered_concat` — what the ledger shows of one text
  more is what `History.add` makes of the entries.
-/
import FleetOrders.History
import Mathlib.Data.List.Destutter
import Mathlib.Data.List.DropRight

namespace FleetOrders.History

/-! ## Lists without repeats -/

section Destutter

open List (destutter destutter' destutter'_cons_pos destutter'_cons_neg)

variable {α : Type} [DecidableEq α]

theorem getLast?_destutter' (a : α) (l : List α) :
    (destutter' (· ≠ ·) a l).getLast? = (a :: l).getLast? := by
  induction l generalizing a with
  | nil => rfl
  | cons b l ih =>
    by_cases h : a = b
    · subst h
      rw [destutter'_cons_neg _ (by simp), ih, List.getLast?_cons_cons]
    · rw [destutter'_cons_pos _ h, List.getLast?_cons_cons, ← ih b]
      cases hl : destutter' (· ≠ ·) b l with
      | nil => exact absurd hl (List.destutter'_ne_nil l (· ≠ ·))
      | cons c m => rw [List.getLast?_cons_cons]

/-- Dropping repeats leaves the last element where it is. -/
theorem getLast?_destutter (l : List α) : (destutter (· ≠ ·) l).getLast? = l.getLast? := by
  cases l with
  | nil => rfl
  | cons a l => exact getLast?_destutter' a l

theorem destutter'_concat (a b : α) (l : List α) :
    destutter' (· ≠ ·) a (l ++ [b]) =
      if (a :: l).getLast? = some b then destutter' (· ≠ ·) a l
      else destutter' (· ≠ ·) a l ++ [b] := by
  induction l generalizing a with
  | nil => by_cases h : a = b <;> simp [h]
  | cons c l ih =>
    rw [List.cons_append, List.getLast?_cons_cons]
    by_cases h : a = c
    · subst h
      rw [destutter'_cons_neg _ (by simp), destutter'_cons_neg _ (by simp), ih]
    · rw [destutter'_cons_pos _ h, destutter'_cons_pos _ h, ih]
      split <;> simp

/-- One element more shows unless it repeats the last one. -/
theorem destutter_concat (l : List α) (b : α) :
    destutter (· ≠ ·) (l ++ [b]) =
      if l.getLast? = some b then destutter (· ≠ ·) l else destutter (· ≠ ·) l ++ [b] := by
  cases l with
  | nil => simp
  | cons a l => exact destutter'_concat a b l

end Destutter

/-! ## The newest entries -/

section Newest

variable (capacity : Nat) (entries : List String) (text : String)

@[simp] theorem newest_zero : newest 0 entries = [] := by
  simp [newest]

theorem length_newest : (newest capacity entries).length = min capacity entries.length := by
  rw [newest, List.length_drop]
  omega

theorem getLast?_newest (h : capacity ≠ 0) :
    (newest capacity entries).getLast? = entries.getLast? := by
  rw [newest, List.getLast?_drop]
  split
  · have : entries.length = 0 := by omega
    simp [List.eq_nil_of_length_eq_zero this]
  · rfl

/-- What is dropped anyway may be dropped before. -/
theorem newest_newest_concat :
    newest capacity (newest capacity entries ++ [text]) = newest capacity (entries ++ [text]) := by
  by_cases h : capacity = 0
  · simp [h]
  · have hlength := length_newest capacity entries
    have hcut : entries.length - capacity ≤ entries.length := by omega
    simp only [newest, List.length_append, List.length_singleton, List.length_drop] at hlength ⊢
    rw [← List.drop_append_of_le_length hcut, List.drop_drop]
    congr 1
    omega

end Newest

/-! ## What a history is meant to be -/

/-- The texts that count: without the blanks around them, without blank
texts, and without repeats. -/
def remembered (texts : List String) : List String :=
  ((texts.map Text.trimmed).filter (· ≠ "")).destutter (· ≠ ·)

/-- What is done with a history. -/
inductive Action where
  | add (command : String)
  | navigate (direction : Direction)
  | resetNavigation
  | clear
  deriving DecidableEq, Repr

/-- An account of a history that forgets nothing. -/
structure Ledger where
  capacity : Nat
  /-- The texts that were added since the history was last cleared. -/
  added : List String
  /-- The shown entry counted from the newest one; 0 outside of a walk. -/
  depth : Nat
  deriving DecidableEq, Repr

namespace Ledger

/-- The account of a history without entries. -/
def new (capacity : Nat) : Ledger :=
  ⟨capacity, [], 0⟩

variable (l : Ledger)

/-- The entries that are kept, oldest first. -/
def kept : List String :=
  (remembered l.added).rtake l.capacity

/-- The entry that is shown. -/
def shown? : Option String :=
  if l.depth = 0 then none else l.kept.reverse[l.depth - 1]?

/-- The account after an action. -/
def act : Action → Ledger
  | .add command => { l with added := l.added ++ [command], depth := 0 }
  | .navigate .up => { l with depth := min (l.depth + 1) l.kept.length }
  | .navigate .down => { l with depth := l.depth - 1 }
  | .resetNavigation => { l with depth := 0 }
  | .clear => { l with added := [], depth := 0 }

/-- The account after a run. -/
def run (as : List Action) : Ledger :=
  as.foldl act l

theorem kept_eq_newest : l.kept = newest l.capacity (remembered l.added) :=
  rfl

theorem kept_of_added_nil (h : l.added = []) : l.kept = [] := by
  simp [kept, remembered, h]

end Ledger

variable {σ : Type}

/-- The history after an action. -/
def act [Store σ] (h : History σ) : Action → History σ
  | .add command => h.add command
  | .navigate direction => h.navigate direction
  | .resetNavigation => h.resetNavigation
  | .clear => h.clear

/-- What an action gives back: a step gives the entry that is shown after
it, the other actions nothing. -/
def answer? (h : History σ) : Action → Option String
  | .navigate direction => (h.navigate direction).current?
  | _ => none

/-- The history after a run. -/
def run [Store σ] (h : History σ) (as : List Action) : History σ :=
  as.foldl act h

/-! ## One text more -/

theorem remembered_concat (texts : List String) (command : String) :
    remembered (texts ++ [command]) =
      if Text.trimmed command = "" ∨ (remembered texts).getLast? = some (Text.trimmed command) then
        remembered texts
      else remembered texts ++ [Text.trimmed command] := by
  by_cases h : Text.trimmed command = ""
  · simp [remembered, h]
  · simp [remembered, h, destutter_concat, getLast?_destutter]

/-- The newest entries grow by a text as the list of all of them does. -/
theorem newest_remembered_concat (capacity : Nat) (texts : List String) (command : String) :
    newest capacity (remembered (texts ++ [command])) =
      if Text.trimmed command = "" ∨
          (newest capacity (remembered texts)).getLast? = some (Text.trimmed command) then
        newest capacity (remembered texts)
      else newest capacity (newest capacity (remembered texts) ++ [Text.trimmed command]) := by
  -- a history that keeps nothing never sees a repeat, but it has nothing to show either
  by_cases h : capacity = 0
  · simp [h]
  · rw [getLast?_newest _ _ h, remembered_concat, newest_newest_concat]
    split <;> rfl

section Add

variable [Store σ] (h : History σ) (command : String)

theorem entries_add :
    (h.add command).entries =
      if Text.trimmed command = "" ∨ h.entries.getLast? = some (Text.trimmed command) then h.entries
      else newest h.capacity (h.entries ++ [Text.trimmed command]) := by
  simp only [add]
  split <;> rfl

@[simp] theorem cursor_add : (h.add command).cursor = none := by
  simp only [add]
  split <;> rfl

@[simp] theorem capacity_add : (h.add command).capacity = h.capacity := by
  simp only [add]
  split <;> rfl

end Add

/-! ## A history and its account -/

/-- The history is as its account says. -/
structure Follows (h : History σ) (l : Ledger) : Prop where
  capacity : h.capacity = l.capacity
  entries : h.entries = l.kept
  depth_le : l.depth ≤ h.entries.length
  cursor : h.cursor = if l.depth = 0 then none else some (h.entries.length - l.depth)

namespace Follows

variable {h : History σ} {l : Ledger}

theorem new (store : σ) (key : String) (capacity : Nat) :
    (History.new store key capacity).Follows (.new capacity) where
  capacity := rfl
  entries := (Ledger.kept_of_added_nil (.new capacity) rfl).symm
  depth_le := Nat.le_refl 0
  cursor := rfl

theorem navigate_up (hf : h.Follows l) : (h.navigate .up).Follows (l.act (.navigate .up)) where
  capacity := hf.capacity
  entries := hf.entries
  depth_le := by
    show min (l.depth + 1) l.kept.length ≤ h.entries.length
    rw [hf.entries]
    omega
  cursor := by
    have hle := hf.depth_le
    show h.step .up = if min (l.depth + 1) l.kept.length = 0 then none
      else some (h.entries.length - min (l.depth + 1) l.kept.length)
    rw [← hf.entries]
    simp only [step, hf.cursor]
    by_cases hdepth : l.depth = 0
    -- from outside the step leads to the newest entry, if there is one
    · by_cases hempty : h.entries = []
      · simp [hempty, hdepth]
      · have hpos := List.length_pos_iff.mpr hempty
        have hmin : min (0 + 1) h.entries.length = 1 := by omega
        simp [hempty, hdepth, hmin]
    · have hne : min (l.depth + 1) h.entries.length ≠ 0 := by omega
      simp only [hdepth, if_false, hne]
      congr 1
      omega

theorem navigate_down (hf : h.Follows l) :
    (h.navigate .down).Follows (l.act (.navigate .down)) where
  capacity := hf.capacity
  entries := hf.entries
  depth_le := Nat.le_trans (Nat.sub_le _ _) hf.depth_le
  cursor := by
    have hle := hf.depth_le
    show h.step .down = if l.depth - 1 = 0 then none
      else some (h.entries.length - (l.depth - 1))
    simp only [step, hf.cursor]
    by_cases hdepth : l.depth = 0
    · simp [hdepth]
    · simp only [hdepth, if_false]
      -- the newest entry is the only one from which the step leads out
      by_cases hlast : l.depth = 1
      · rw [if_pos (by omega), if_pos (by omega)]
      · rw [if_neg (by omega), if_neg (by omega)]
        congr 1
        omega

theorem current?_eq (hf : h.Follows l) : h.current? = l.shown? := by
  have hle := hf.depth_le
  rw [current?, hf.cursor, Ledger.shown?, ← hf.entries]
  by_cases hdepth : l.depth = 0
  · simp [hdepth]
  · rw [if_neg hdepth, if_neg hdepth, List.getElem?_reverse (by omega)]
    show h.entries[h.entries.length - l.depth]? = _
    congr 1
    omega

theorem isNavigating_iff (hf : h.Follows l) : h.isNavigating = true ↔ 0 < l.depth := by
  rw [isNavigating, hf.cursor]
  by_cases hdepth : l.depth = 0
  · simp [hdepth]
  · simp [hdepth]
    omega

variable [Store σ]

theorem add (hf : h.Follows l) (command : String) :
    (h.add command).Follows (l.act (.add command)) where
  capacity := (capacity_add h command).trans hf.capacity
  entries := by
    rw [entries_add, hf.entries, hf.capacity, Ledger.kept_eq_newest]
    exact (newest_remembered_concat l.capacity l.added command).symm
  depth_le := Nat.zero_le _
  cursor := cursor_add h command

/-- What one action preserves. -/
theorem act (hf : h.Follows l) (a : Action) : (h.act a).Follows (l.act a) := by
  cases a with
  | add command => exact hf.add command
  | navigate direction =>
    cases direction with
    | up => exact hf.navigate_up
    | down => exact hf.navigate_down
  | resetNavigation => exact ⟨hf.capacity, hf.entries, Nat.zero_le _, rfl⟩
  | clear =>
    exact ⟨hf.capacity, (Ledger.kept_of_added_nil (l.act .clear) rfl).symm, Nat.le_refl 0, rfl⟩

/-- What a run preserves. -/
theorem run (hf : h.Follows l) (as : List Action) : (h.run as).Follows (l.run as) := by
  induction as generalizing h l with
  | nil => exact hf
  | cons a as ih => exact ih (hf.act a)

end Follows

/-! ## Whole runs -/

variable [Store σ]

/-- After every run the history shows what its account says: the newest of
the texts that count, and of them the one at the depth of the walk. A step
gives back what the account shows after it. -/
theorem run_follows_ledger (store : σ) (key : String) (capacity : Nat) (as : List Action) :
    ((new store key capacity).run as).entries = ((Ledger.new capacity).run as).kept ∧
    ((Ledger.new capacity).run as).depth ≤ ((Ledger.new capacity).run as).kept.length ∧
    ((new store key capacity).run as).current? = ((Ledger.new capacity).run as).shown? ∧
    (((new store key capacity).run as).isNavigating = true ↔
      0 < ((Ledger.new capacity).run as).depth) ∧
    ∀ direction, ((new store key capacity).run as).answer? (.navigate direction) =
      (((Ledger.new capacity).run as).act (.navigate direction)).shown? := by
  have hf := (Follows.new store key capacity).run as
  refine ⟨hf.entries, hf.entries ▸ hf.depth_le, hf.current?_eq, hf.isNavigating_iff, ?_⟩
  intro direction
  exact (hf.act (.navigate direction)).current?_eq

end FleetOrders.History
