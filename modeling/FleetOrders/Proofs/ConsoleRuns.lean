/-
FleetOrders.Proofs.ConsoleRuns — what a console has recorded can be sent
again.

Only the canonical texts of checked commands come into a history, and a
history that is loaded was saved by a console before. So over a store that
was empty at first every entry is canonical text (`Canonical`), however
often the player walks, clears, starts again with other settings, or is
shown another snapshot. The invariant speaks of the entries and of every
list that the store holds (`Console.Orderly`), because the next settings may
name any key.

* `Canonical.of_check`, `Canonical.check` — what a check gives is canonical,
  and a check of canonical text gives it again or cites the rules.
* `History.Tidy.add`, `History.Tidy.load` — recording and starting again
  keep to canonical text.
* `Console.Orderly.act`, `Console.Orderly.run` — one action, and a run.
* `Console.entries_resendable` — the entries after a run, and what becomes
  of them when they are checked again.
* `Console.not_resendable_of_overlong` — an entry of 2³² bytes is lost when the
  console is started again, since its saved form has no room for its length.
-/
import FleetOrders.Proofs.Feedback
import FleetOrders.Proofs.HistoryPersistence
import Mathlib.Data.List.Infix

namespace FleetOrders

/-! ## Canonical lines -/

/-- The line is the canonical text of one complete command and is read as
that command. -/
def Canonical (line : String) : Prop :=
  ∃ c : Command, (Reading.final line).error = none ∧ (Reading.final line).consumedAll = true ∧
    (Reading.final line).command = some c ∧ c.isComplete = true ∧ c.wire? = some line

namespace Canonical

variable {s : Snapshot} {line : String}

/-- What a check gives is canonical text. -/
theorem of_check {sub : Submission} (h : s.check line = .ok sub) : Canonical sub.wire := by
  obtain ⟨hcommand, hwire⟩ := check_ok_facts h
  have hformed := Reading.wellFormed_of_live_command hcommand
  obtain ⟨herror, hconsumed, hread⟩ := Reading.final_wire hwire hformed
  exact ⟨sub.command, herror, hconsumed, hread, Command.isComplete_of_wire? hwire, hwire⟩

theorem trimmed (h : Canonical line) : Text.trimmed line = line := by
  obtain ⟨c, -, -, hcommand, -, hwire⟩ := h
  rw [Reading.final_command] at hcommand
  exact Command.trimmed_wire hwire (Reading.wellFormed_of_live_command hcommand)

/-- On any snapshot canonical text is either a submission of that text or
against the rules of the game. -/
theorem check (h : Canonical line) (s : Snapshot) :
    (∃ verdict, s.check line = .error (.rejected verdict)) ∨
      ∃ sub, s.check line = .ok sub ∧ sub.wire = line := by
  obtain ⟨c, herror, -, hcommand, -, hwire⟩ := h
  have hcheck : s.check line = s.checkCommand c := by
    simp only [Snapshot.check, herror, hcommand]
  by_cases hvalid : (assess s .submission (some c)).isValid = true
  · refine .inr ⟨⟨line, c, (assess s .submission (some c)).warnings⟩, ?_, rfl⟩
    simp [hcheck, Snapshot.checkCommand, hvalid, hwire]
  · refine .inl ⟨assess s .submission (some c), ?_⟩
    simp [hcheck, Snapshot.checkCommand, hvalid]

end Canonical

namespace History

/-! ## Lists of canonical lines -/

/-- Every entry is canonical text, and no two next to each other are the
same. -/
structure Resendable (entries : List String) : Prop where
  canonical : ∀ e ∈ entries, Canonical e
  distinct : entries.IsChain (· ≠ ·)

namespace Resendable

variable {entries : List String}

theorem nil : Resendable [] :=
  ⟨nofun, List.isChain_nil⟩

theorem newest (h : Resendable entries) (capacity : Nat) :
    Resendable (newest capacity entries) where
  canonical e he := h.canonical e (List.mem_of_mem_drop he)
  distinct := h.distinct.drop _

theorem take (h : Resendable entries) (count : Nat) : Resendable (entries.take count) where
  canonical e he := h.canonical e (List.mem_of_mem_take he)
  distinct := h.distinct.take _

theorem concat (h : Resendable entries) {e : String} (he : Canonical e)
    (hnew : entries.getLast? ≠ some e) : Resendable (entries ++ [e]) where
  canonical := by
    intro x hx
    rcases List.mem_append.mp hx with hx | hx
    · exact h.canonical x hx
    · exact List.mem_singleton.mp hx ▸ he
  distinct := by
    refine h.distinct.append (List.isChain_singleton e) ?_
    intro x hx y hy hsame
    obtain rfl : e = y := Option.some.inj hy
    exact hnew (hsame ▸ hx)

end Resendable

/-- Everything the store holds is a list of canonical lines whose saved form
has room for each of them. If it has none for their number, the first of them
are read back, which are canonical lines, too. -/
def TidyStore (store : MemoryStore) : Prop :=
  ∀ key bs, store.find? key = some bs → ∃ entries, bs = entryBytes entries ∧ Short entries ∧
    Resendable entries

theorem tidyStore_empty : TidyStore .empty :=
  nofun

theorem TidyStore.insert {store : MemoryStore} (h : TidyStore store) (key : String)
    {entries : List String} (hshort : Short entries) (hentries : Resendable entries) :
    TidyStore (store.insert key (entryBytes entries)) := by
  intro other bs hfind
  rw [MemoryStore.find?_insert] at hfind
  split at hfind
  · exact ⟨entries, (Option.some.inj hfind).symm, hshort, hentries⟩
  · exact h other bs hfind

/-- The history and its store hold nothing but canonical lines, and no more
entries than are to be kept. -/
structure Tidy (h : History MemoryStore) : Prop where
  entries : Resendable h.entries
  length_le : h.entries.length ≤ h.capacity
  store : TidyStore h.store

namespace Tidy

variable {h : History MemoryStore}

/-- What a tidy store gives back is canonical text again. -/
theorem load {store : MemoryStore} (hstore : TidyStore store) (key : String) (capacity : Nat) :
    Tidy (load store key capacity) := by
  have hsaved : Resendable (saved store key) := by
    have hget : Store.get? store key = .ok (store.find? key) := rfl
    rw [saved, hget]
    cases hfind : store.find? key with
    | none => exact .nil
    | some bs =>
      obtain ⟨entries, rfl, hshort, hentries⟩ := hstore key bs hfind
      simpa [entriesOf?_of_short hshort] using hentries.take _
  refine ⟨hsaved.newest capacity, ?_, hstore⟩
  show (newest capacity (saved store key)).length ≤ capacity
  rw [length_newest]
  omega

theorem persist (ht : h.Tidy) (hshort : Short h.entries) : h.persist.Tidy :=
  ⟨ht.entries, ht.length_le, ht.store.insert h.key hshort ht.entries⟩

theorem withCursor (ht : h.Tidy) (cursor : Option Nat) : Tidy { h with cursor } :=
  ⟨ht.entries, ht.length_le, ht.store⟩

theorem clear (ht : h.Tidy) : h.clear.Tidy := by
  have hempty : Tidy { h with entries := [], cursor := none } :=
    ⟨.nil, Nat.zero_le _, ht.store⟩
  have hshort : Short [] := nofun
  exact hempty.persist hshort

/-- Canonical text is recorded as it is, unless it was recorded last. -/
theorem add (ht : h.Tidy) {e : String} (he : Canonical e) (hshort : Short (h.add e).entries) :
    (h.add e).Tidy := by
  -- only what is really recorded is saved, so only that has to be short
  rw [entries_add, he.trimmed] at hshort
  rw [History.add, he.trimmed]
  split
  · exact ht.withCursor none
  · next hnew =>
    rw [if_neg hnew] at hshort
    rw [not_or] at hnew
    have hgrown : Tidy { h with
        entries := newest h.capacity (h.entries ++ [e]), cursor := none } := by
      refine ⟨(ht.entries.concat he hnew.2).newest _, ?_, ht.store⟩
      show (newest h.capacity (h.entries ++ [e])).length ≤ h.capacity
      rw [length_newest]
      omega
    exact hgrown.persist hshort

end Tidy

end History

namespace Console

/-! ## Runs of a console -/

/-- A submission that a check gave, whenever and on whatever snapshot. -/
structure Checked where
  submission : Submission
  passed : ∃ (s : Snapshot) (line : String), s.check line = .ok submission

/-- What is done with a console. The snapshots are those of the moment. -/
inductive Action where
  | analyze (s : Snapshot) (line : String)
  | check (s : Snapshot) (line : String)
  | commit (checked : Checked)
  | submit (s : Snapshot) (line : String)
  | navigate (direction : Direction)
  | resetNavigation
  | clear
  /-- A new console on the same store. -/
  | reopen (config : Config)

variable {σ : Type} [Store σ]

/-- The console after an action. Analyses and checks leave it alone. -/
def act (c : Console σ) : Action → Console σ
  | .analyze _ _ | .check _ _ => c
  | .commit checked => c.commit checked.submission
  | .submit s line => (c.submit s line).2
  | .navigate direction => { c with history := c.history.navigate direction }
  | .resetNavigation => { c with history := c.history.resetNavigation }
  | .clear => { c with history := c.history.clear }
  | .reopen config => .new config c.history.store

/-- The console after a run. -/
def run (c : Console σ) (as : List Action) : Console σ :=
  as.foldl act c

theorem history_commit (c : Console σ) (sub : Submission) :
    (c.commit sub).history = c.history.add sub.wire := by
  rw [commit]

/-- The history and its store are tidy, and the settings tell how many
entries are kept. -/
structure Orderly (c : Console MemoryStore) : Prop where
  tidy : c.history.Tidy
  capacity : c.history.capacity = c.config.historySize

namespace Orderly

variable {c : Console MemoryStore}

theorem new {store : MemoryStore} (hstore : History.TidyStore store) (config : Config) :
    Orderly (Console.new config store) :=
  ⟨.load hstore config.historyKey config.historySize, rfl⟩

theorem commit (ho : c.Orderly) {sub : Submission} (hsub : Canonical sub.wire)
    (hshort : History.Short (c.commit sub).history.entries) : (c.commit sub).Orderly where
  tidy := by
    rw [history_commit] at hshort ⊢
    exact ho.tidy.add hsub hshort
  capacity := by
    rw [history_commit, History.capacity_add]
    exact ho.capacity

theorem submit (ho : c.Orderly) (s : Snapshot) (line : String)
    (hshort : History.Short (c.submit s line).2.history.entries) : (c.submit s line).2.Orderly := by
  unfold Console.submit at hshort ⊢
  cases hcheck : s.check line with
  | ok sub =>
    rw [hcheck] at hshort
    exact ho.commit (.of_check hcheck) hshort
  | error e => exact ho

/-- What one action preserves. -/
theorem act (ho : c.Orderly) (a : Action) (hshort : History.Short (c.act a).history.entries) :
    (c.act a).Orderly := by
  cases a with
  | analyze s line => exact ho
  | check s line => exact ho
  | commit checked =>
    obtain ⟨s, line, hcheck⟩ := checked.passed
    exact ho.commit (.of_check hcheck) hshort
  | submit s line => exact ho.submit s line hshort
  | navigate direction => exact ⟨ho.tidy.withCursor _, ho.capacity⟩
  | resetNavigation => exact ⟨ho.tidy.withCursor none, ho.capacity⟩
  | clear => exact ⟨ho.tidy.clear, ho.capacity⟩
  | reopen config => exact .new ho.tidy.store config

/-- What a run preserves. -/
theorem run (ho : c.Orderly) {as : List Action}
    (hshort : ∀ before, before <+: as → History.Short (c.run before).history.entries) :
    (c.run as).Orderly := by
  induction as generalizing c with
  | nil => exact ho
  | cons a as ih =>
    have hfirst := hshort [a] (List.prefix_append [a] as)
    refine ih (ho.act a hfirst) ?_
    intro before hbefore
    exact hshort (a :: before) (List.cons_prefix_cons.mpr ⟨rfl, hbefore⟩)

end Orderly

/-! ## A line that is too long to be saved -/

/-- An entry of 2³² bytes, the first of a history, is saved as the empty
text. -/
theorem saved_add_of_overlong {h : History MemoryStore} (hstart : h.entries = [])
    (hcapacity : 0 < h.capacity) {e : String} (htrimmed : Text.trimmed e = e)
    (hlong : (Text.utf8 e).length = UInt32.size) :
    History.saved (h.add e).store h.key = [""] := by
  have hne : e ≠ "" := by
    rintro rfl
    exact absurd hlong (by decide)
  have hnew : h.Changes (.add e) := by
    show ¬(_ ∨ _)
    rw [htrimmed, hstart]
    simp [hne]
  have hentries : (h.add e).entries = [e] := by
    rw [History.entries_add, if_neg hnew, htrimmed, hstart, List.nil_append, History.newest,
      List.length_singleton, Nat.sub_eq_zero_of_le hcapacity, List.drop_zero]
  have hsaved : (h.act (.add e)).Saved := History.saved_of_changes (MemoryStore.keeps _ _) hnew
  change (h.add e).Saved at hsaved
  rw [History.Saved, hentries, show (h.add e).key = h.key from h.key_act (.add e)] at hsaved
  rw [History.saved, hsaved]
  simp [History.entriesOf?_overlong hlong]

/-- Where the canonical text of an order has 2³² bytes, a console that is
started again finds the empty text in its place. -/
theorem entries_reopened_of_overlong {s : Snapshot} {line : String} {sub : Submission}
    (hcheck : s.check line = .ok sub) (hlong : (Text.utf8 sub.wire).length = UInt32.size) :
    ((new .plain MemoryStore.empty).run [.submit s line, .reopen .plain]).history.entries =
      [""] := by
  have hsaved := saved_add_of_overlong (h := (new .plain MemoryStore.empty).history) rfl
    (by decide) (Canonical.of_check hcheck).trimmed hlong
  have hrun : (new .plain MemoryStore.empty).run [.submit s line, .reopen .plain] =
      new .plain ((new .plain MemoryStore.empty).history.add sub.wire).store := by
    simp only [run, List.foldl_cons, List.foldl_nil, act, submit, hcheck, history_commit]
  rw [hrun]
  show History.newest 100 (History.saved _ Config.plain.historyKey) = [""]
  rw [show Config.plain.historyKey = (new .plain MemoryStore.empty).history.key from rfl, hsaved]
  rfl

/-- A `JOIN` line with so many letters behind the keyword. -/
def joinLine (letters : Nat) : String :=
  "JOIN " ++ String.ofList (List.replicate letters 'a')

theorem length_utf8_joinLine (letters : Nat) :
    (Text.utf8 (joinLine letters)).length = 5 + letters := by
  have hletters : (String.ofList (List.replicate letters 'a')).utf8ByteSize = letters := by
    induction letters with
    | zero => rfl
    | succ n ih =>
      rw [List.replicate_succ', String.ofList_append, String.utf8ByteSize_append, ih]
      rfl
  show (joinLine letters).utf8ByteSize = 5 + letters
  rw [joinLine, String.utf8ByteSize_append, hletters]
  rfl

/-- The free text of a `JOIN` line may be any letters, on any snapshot. -/
theorem exists_check_joinLine (s : Snapshot) {letters : Nat} (h : 0 < letters) :
    ∃ sub, s.check (joinLine letters) = .ok sub ∧ sub.wire = joinLine letters := by
  obtain ⟨n, rfl⟩ : ∃ n, letters = n + 1 := Nat.exists_eq_add_one.mpr h
  have hends : Text.BareEnds (List.replicate (n + 1) 'a') :=
    Text.bareEnds_of_forall fun c hc => by
      rw [List.eq_of_mem_replicate hc]
      decide
  have htrimmed : Text.trimmed (String.ofList (List.replicate (n + 1) 'a')) =
      String.ofList (List.replicate (n + 1) 'a') := by
    rw [Text.trimmed_eq_self_iff, String.toList_ofList]
    exact hends
  have hne : String.ofList (List.replicate (n + 1) 'a') ≠ "" := by
    rw [Ne, ← String.toList_eq_nil_iff, String.toList_ofList]
    exact List.cons_ne_nil 'a' _
  have hlegal : s.Legal (.join (String.ofList (List.replicate (n + 1) 'a'))) := by
    rw [← htrimmed] at hne
    exact hne
  have hvalid := isValid_assess_submission_iff.mpr hlegal
  exact ⟨_, Snapshot.check_wire (c := .join _) rfl ⟨hne, htrimmed⟩ hvalid, rfl⟩

/-! ## Runs from an empty store -/

/-- After any run that begins on an empty store, every entry is the
canonical text of one complete command and is read as it; no two entries
next to each other are the same, and there are no more of them than the
settings allow. On every snapshot an entry is sent as the same text again,
unless the rules of the game are against it. What is recorded on the way must
be short enough for its saved form to tell its length. -/
theorem entries_resendable (config : Config) (as : List Action)
    (hshort : ∀ before, before <+: as →
      History.Short ((new config MemoryStore.empty).run before).history.entries) :
    (∀ e ∈ ((new config MemoryStore.empty).run as).history.entries, Canonical e) ∧
    ((new config MemoryStore.empty).run as).history.entries.IsChain (· ≠ ·) ∧
    ((new config MemoryStore.empty).run as).history.entries.length ≤
      ((new config MemoryStore.empty).run as).config.historySize ∧
    ∀ e ∈ ((new config MemoryStore.empty).run as).history.entries, ∀ s : Snapshot,
      (∃ verdict, s.check e = .error (.rejected verdict)) ∨
        ∃ sub, s.check e = .ok sub ∧ sub.wire = e := by
  have ho := (Orderly.new History.tidyStore_empty config).run hshort
  have hentries := ho.tidy.entries
  refine ⟨hentries.canonical, hentries.distinct, ho.capacity ▸ ho.tidy.length_le, ?_⟩
  intro e he s
  exact (hentries.canonical e he).check s

/-- Two lines are sent on the demonstration map, and the console is started
again with room for one entry. -/
theorem entries_resendable_demo :
    ((new .plain MemoryStore.empty).run [.submit .demo " f1w3", .submit .demo "turn",
      .navigate .up, .reopen { Config.plain with historySize := 1 }]).history.entries =
        ["TURN"] ∧
    Canonical "TURN" := by
  have hentries : ((new .plain MemoryStore.empty).run [.submit .demo " f1w3",
      .submit .demo "turn", .navigate .up,
      .reopen { Config.plain with historySize := 1 }]).history.entries = ["TURN"] := by
    decide +kernel
  have hshort : ∀ before ∈ List.inits [.submit .demo " f1w3", .submit .demo "turn", .navigate .up,
      .reopen { Config.plain with historySize := 1 }],
      History.Short ((new .plain MemoryStore.empty).run before).history.entries := by
    decide +kernel
  have hrun := entries_resendable .plain _ fun before h =>
    hshort before ((List.mem_inits _ _).mpr h)
  refine ⟨hentries, hrun.1 "TURN" ?_⟩
  rw [hentries]
  exact List.mem_singleton_self "TURN"

/-- The bound cannot be left out: a `JOIN` line of 2³² bytes is recorded, and a
console that is started again has the empty text for it, which is no command. -/
theorem not_resendable_of_overlong :
    ((new .plain MemoryStore.empty).run
      [.submit .demo (joinLine (UInt32.size - 5)), .reopen .plain]).history.entries = [""] ∧
    ¬ Canonical "" ∧ Snapshot.demo.check "" = .error .notSubmittable := by
  refine ⟨?_, ?_, by decide +kernel⟩
  · have hletters : 0 < UInt32.size - 5 := by decide
    obtain ⟨sub, hcheck, hwire⟩ := exists_check_joinLine .demo hletters
    refine entries_reopened_of_overlong hcheck ?_
    rw [hwire, length_utf8_joinLine]
    rfl
  · rintro ⟨c, -, -, hcommand, -⟩
    have hnone : (Reading.final "").command = none := by decide +kernel
    rw [hnone] at hcommand
    cases hcommand

end Console

end FleetOrders
