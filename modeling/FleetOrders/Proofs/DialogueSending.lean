/-
FleetOrders.Proofs.DialogueSending — a dialogue sends what the player agreed
to, and records what it sent.

A line stands for an order in two ways: it is one, or it asks for one of the
newest entries of the history again (`Dialogue.Offers`). Both end in one
check and, where there are warnings, in one question whose answer is the very
next thing the editor gives (`Dialogue.Consents`). Nothing else that a line
can do touches the history, the store or what the editor was given for
recall, except for the command that clears the history.

* `History.repeat_up` — a walk of `n` steps shows the `n`th newest entry.
* `Dialogue.sends_or_sendsNothing` — what one line comes to.
* `Dialogue.Continues` — what the history and the list for recall are after
  any number of lines.
* `Dialogue.sends_what_is_agreed` — all of it, after any turns.
* `Dialogue.exists_continues_run` — what a whole conversation records.
-/
import FleetOrders.Console.Dialogue
import FleetOrders.Proofs.Capitals
import FleetOrders.Proofs.HistoryRuns
import FleetOrders.Proofs.Trimming

namespace FleetOrders

open Text (SameLetters isBlank)

/-! ## Walks -/

namespace History

variable {σ : Type} (h : History σ)

/-- A walk from outside stands as many entries from the end as it has steps,
and stops at the oldest entry. -/
theorem repeat_up (n : Nat) :
    Nat.repeat (·.navigate .up) n h.resetNavigation =
      { h with cursor :=
          if n = 0 ∨ h.entries = [] then none else some (h.entries.length - n) } := by
  induction n with
  | zero => simp [Nat.repeat, resetNavigation]
  | succ n ih =>
    rw [Nat.repeat, ih]
    by_cases hempty : h.entries = []
    · simp [navigate, step, hempty]
    · by_cases hn : n = 0
      · simp [navigate, step, hempty, hn]
      · simp only [navigate, step, hempty, hn, or_self, if_false, Nat.succ_ne_zero]
        congr 2

/-- A walk of `n` steps shows the `n`th newest entry. -/
theorem current?_repeat_up {n : Nat} (hpos : 1 ≤ n) (hle : n ≤ h.entries.length) :
    (Nat.repeat (·.navigate .up) n h.resetNavigation).current? = h.entries.reverse[n - 1]? := by
  have hnone : ¬(n = 0 ∨ h.entries = []) := by
    rintro (rfl | hempty)
    · omega
    · rw [hempty, List.length_nil] at hle
      omega
  rw [repeat_up, if_neg hnone, List.getElem?_reverse (by omega)]
  show h.entries[h.entries.length - n]? = _
  congr 1
  omega

/-- The histories are equal but for the place of a walk. -/
def SameRecord (h g : History σ) : Prop :=
  h.resetNavigation = g.resetNavigation

variable {h} {g k : History σ}

theorem SameRecord.refl (h : History σ) : h.SameRecord h :=
  rfl

theorem SameRecord.trans (hhg : h.SameRecord g) (hgk : g.SameRecord k) : h.SameRecord k :=
  Eq.trans hhg hgk

theorem sameRecord_cursor (h : History σ) (cursor : Option Nat) :
    SameRecord { h with cursor } h :=
  rfl

theorem SameRecord.entries (hhg : h.SameRecord g) : h.entries = g.entries := by
  show h.resetNavigation.entries = g.resetNavigation.entries
  rw [show h.resetNavigation = g.resetNavigation from hhg]

theorem SameRecord.store (hhg : h.SameRecord g) : h.store = g.store := by
  show h.resetNavigation.store = g.resetNavigation.store
  rw [show h.resetNavigation = g.resetNavigation from hhg]

variable [Store σ]

/-- Recording looks at no walk, and ends it. -/
theorem SameRecord.add (hhg : h.SameRecord g) (command : String) : h.add command = g.add command :=
  show h.resetNavigation.add command = g.resetNavigation.add command from hhg ▸ rfl

theorem SameRecord.act (hhg : h.SameRecord g) (a : Action) : (h.act a).SameRecord (g.act a) := by
  cases a with
  | add command => exact congrArg resetNavigation (hhg.add command)
  | navigate direction => exact hhg
  | resetNavigation => exact hhg
  | clear => exact congrArg (fun x => x.clear.resetNavigation) hhg

theorem SameRecord.run (hhg : h.SameRecord g) (as : List Action) :
    (h.run as).SameRecord (g.run as) := by
  induction as generalizing h g with
  | nil => exact hhg
  | cons a as ih => exact ih (hhg.act a)

/-- The text that an action adds. -/
def Action.added? : Action → Option String
  | .add command => some command
  | _ => none

end History

/-! ## Commands to the console -/

/-- The line is the command `name` to the console, with `rest` behind it. -/
def IsCommand (line name rest : String) : Prop :=
  Text.trim line.toList = ':' :: (name.toList ++ rest.toList) ∧
    (∀ c ∈ name.toList, isBlank c = false) ∧ ∀ c ∈ rest.toList.head?, isBlank c = true

/-- The name of the command to the console that the line is. -/
def commandName? (line : String) : Option String :=
  match Text.trim line.toList with
  | ':' :: command => some (Dialogue.splitCommand (String.ofList command)).1
  | _ => none

/-- The number of steps back that is asked for behind `again`. -/
def stepsBack? (rest : String) : Option Nat :=
  if Text.trimmed rest = "" then some 1 else Text.size? (Text.trimmed rest)

namespace Dialogue

theorem trim_tail {cs : List Char} (h : ∀ c ∈ cs.head?, isBlank c = true) :
    Text.trim cs.tail = Text.trim cs := by
  cases cs with
  | nil => rfl
  | cons c cs =>
    have hc : isBlank c = true := h c rfl
    simp [Text.trim, Text.trimStart, hc]

/-- A command is cut behind its name. -/
theorem splitCommand_of_isCommand {line name rest : String} {command : List Char}
    (hline : Text.trim line.toList = ':' :: command) (h : IsCommand line name rest) :
    (splitCommand (String.ofList command)).1 = name ∧
      Text.trimmed (splitCommand (String.ofList command)).2 = Text.trimmed rest := by
  obtain ⟨hcommand, hname, hrest⟩ := h
  obtain rfl : command = name.toList ++ rest.toList :=
    (List.cons.inj (hline.symm.trans hcommand)).2
  have hnot : ∀ c ∈ name.toList, (!isBlank c) = true := fun c hc => by simp [hname c hc]
  have htake : rest.toList.takeWhile (!isBlank ·) = [] := by
    cases hcs : rest.toList with
    | nil => rfl
    | cons c cs =>
      have hc : isBlank c = true := hrest c (by rw [hcs]; rfl)
      simp [hc]
  have hdrop : rest.toList.dropWhile (!isBlank ·) = rest.toList := by
    cases hcs : rest.toList with
    | nil => rfl
    | cons c cs =>
      have hc : isBlank c = true := hrest c (by rw [hcs]; rfl)
      simp [hc]
  constructor
  · simp [splitCommand, List.takeWhile_append_of_pos hnot, htake]
  · simp [splitCommand, List.dropWhile_append_of_pos hnot, hdrop, Text.trimmed,
      trim_tail hrest]

/-- Every line that starts with a colon is a command. -/
theorem exists_isCommand {line : String} {command : List Char}
    (hline : Text.trim line.toList = ':' :: command) :
    ∃ rest, IsCommand line (splitCommand (String.ofList command)).1 rest := by
  refine ⟨String.ofList (command.dropWhile (!isBlank ·)), ?_, ?_, ?_⟩
  · simp [splitCommand, hline]
  · intro c hc
    have := List.mem_takeWhile_imp (by simpa [splitCommand] using hc)
    simpa using this
  · intro c hc
    have := List.head?_dropWhile_not (!isBlank ·) command
    rw [String.toList_ofList] at hc
    rw [Option.mem_def.mp hc] at this
    simpa using this

theorem commandName?_eq_some_iff {line name : String} :
    commandName? line = some name ↔ ∃ rest, IsCommand line name rest := by
  unfold commandName?
  split
  · next command hline =>
    constructor
    · intro h
      obtain rfl := Option.some.inj h
      exact exists_isCommand hline
    · rintro ⟨rest, h⟩
      rw [(splitCommand_of_isCommand hline h).1]
  · next hno =>
    refine iff_of_false nofun ?_
    rintro ⟨rest, h⟩
    exact hno _ h.1

/-! ## What a line stands for -/

variable {σ : Type} (d : Dialogue σ)

/-- The text that a line would send: the line itself, or the entry of the
history that it asks for. -/
inductive Offers (line : String) : String → Prop
  | typed (hnonblank : Text.trimmed line ≠ "")
      (hcolon : (Text.trimmed line).toList.head? ≠ some ':') : Offers line (Text.trimmed line)
  | again {rest entry : String} {n : Nat} (hline : IsCommand line "again" rest)
      (hsteps : stepsBack? rest = some n) (hpos : 1 ≤ n)
      (hle : n ≤ d.console.history.entries.length)
      (hentry : d.console.history.entries.reverse[n - 1]? = some entry) : Offers line entry

/-- The player agrees, if there is something to agree to: the very next
answer is a yes. -/
def Consents (sub : Submission) : Prop :=
  sub.warnings = [] ∨ ∃ answer rest, d.editor.answers = .line answer :: rest ∧
    (SameLetters (Text.trimmed answer) "y" ∨ SameLetters (Text.trimmed answer) "yes")

theorem agrees_iff {answer : String} :
    agrees answer = true ↔
      SameLetters (Text.trimmed answer) "y" ∨ SameLetters (Text.trimmed answer) "yes" := by
  have hy : "Y".toList = "y".toList.map Text.upper := by decide
  have hyes : "YES".toList = "yes".toList.map Text.upper := by decide
  unfold agrees
  rw [Bool.or_eq_true, beq_iff_eq, beq_iff_eq, ← String.toList_inj, ← String.toList_inj, hy, hyes]
  simp only [String.toList_ofList, SameLetters, Text.trimmed]

/-! ## Sending -/

variable {d}

/-- Whether the question is answered with a yes. -/
theorem confirm_eq_true_iff :
    d.confirm.1 = .ok true ↔ ∃ answer rest, d.editor.answers = .line answer :: rest ∧
      agrees answer = true := by
  unfold confirm LineEditor.readLine
  cases hanswers : d.editor.answers with
  | nil => simp
  | cons a rest => cases a <;> simp

theorem foldl_warn (warnings : List String) :
    ∃ errors, warnings.foldl warn d = { d with errors } := by
  induction warnings generalizing d with
  | nil => exact ⟨d.errors, rfl⟩
  | cons w warnings ih =>
    obtain ⟨errors, h⟩ := ih (d := d.warn w)
    exact ⟨errors, h⟩

/-- Everything that a question leaves alone: it is put to the editor, and
warnings may be printed before it. -/
structure Undisturbed (d d' : Dialogue σ) : Prop where
  console : d'.console = d.console
  recalled : d'.editor.recalled = d.editor.recalled
  snapshot : d'.snapshot = d.snapshot

theorem Undisturbed.refl (d : Dialogue σ) : d.Undisturbed d :=
  ⟨rfl, rfl, rfl⟩

theorem undisturbed_confirm (errors : String) :
    d.Undisturbed ({ d with errors } : Dialogue σ).confirm.2 := by
  unfold confirm LineEditor.readLine
  cases hanswers : d.editor.answers with
  | nil => exact ⟨rfl, rfl, rfl⟩
  | cons a rest => cases a <;> exact ⟨rfl, rfl, rfl⟩

section Send

variable [Store σ] {text : String}

/-- An order that the player agrees to is sent and recorded. -/
theorem send_of_consents {sub : Submission} (hcheck : d.snapshot.check text = .ok sub)
    (hconsents : d.Consents sub) :
    ∃ d', d.Undisturbed d' ∧ d.send text = (.ok (.sent sub), d'.record sub) := by
  unfold send
  rw [hcheck]
  dsimp only
  by_cases hwarnings : sub.warnings = []
  · exact ⟨d, .refl d, by simp [Submission.needsConfirmation, hwarnings]⟩
  · obtain ⟨errors, hwarned⟩ := foldl_warn (d := d) sub.warnings
    have hanswer : ({ d with errors } : Dialogue σ).confirm.1 = .ok true := by
      obtain ⟨answer, rest, hanswers, hyes⟩ := hconsents.resolve_left hwarnings
      exact confirm_eq_true_iff.mpr ⟨answer, rest, hanswers, agrees_iff.mpr hyes⟩
    refine ⟨_, undisturbed_confirm errors, ?_⟩
    rw [if_pos (by simpa [Submission.needsConfirmation] using hwarnings), hwarned]
    split
    · next h => simp [h] at hanswer
    · next h => simp [h] at hanswer
    · next h => simp [h]

/-- Without a check that passes and consent nothing is sent, and nothing is
recorded. -/
theorem send_of_refused (hrefused : ∀ sub, d.snapshot.check text = .ok sub → ¬d.Consents sub) :
    (∀ sub, (d.send text).1 ≠ .ok (.sent sub)) ∧ d.Undisturbed (d.send text).2 := by
  unfold send
  cases hcheck : d.snapshot.check text with
  | error e => exact ⟨nofun, .refl d⟩
  | ok sub =>
    have hno := hrefused sub hcheck
    rw [Consents, not_or] at hno
    obtain ⟨hwarnings, hanswers⟩ := hno
    obtain ⟨errors, hwarned⟩ := foldl_warn (d := d) sub.warnings
    have hanswer : ({ d with errors } : Dialogue σ).confirm.1 ≠ .ok true := by
      intro h
      obtain ⟨answer, rest, hread, hyes⟩ := confirm_eq_true_iff.mp h
      exact hanswers ⟨answer, rest, hread, agrees_iff.mp hyes⟩
    have hsame := undisturbed_confirm (d := d) errors
    dsimp only
    rw [if_pos (by simpa [Submission.needsConfirmation] using hwarnings), hwarned]
    split
    · next h => exact ⟨nofun, by simpa [h] using hsame⟩
    · next h => exact ⟨nofun, by simpa [h] using hsame⟩
    · next h => exact absurd (by rw [h]) hanswer

end Send

/-! ## Entries asked for again -/

theorem entryBack_snd (steps : String) :
    ∃ cursor, (d.entryBack steps).2 = { d with console.history.cursor := cursor } := by
  unfold entryBack
  split
  · exact ⟨d.console.history.cursor, rfl⟩
  · next n _ =>
    dsimp only
    split
    · exact ⟨d.console.history.cursor, rfl⟩
    · rw [History.repeat_up]
      split <;> exact ⟨none, rfl⟩

/-- The entry asked for is the `n`th newest one. -/
theorem entryBack_eq_ok_iff {rest entry : String} :
    (d.entryBack (Text.trimmed rest)).1 = .ok entry ↔
      ∃ n, stepsBack? rest = some n ∧ 1 ≤ n ∧ n ≤ d.console.history.entries.length ∧
        d.console.history.entries.reverse[n - 1]? = some entry := by
  unfold entryBack stepsBack?
  cases hsteps : (if Text.trimmed rest = "" then some 1 else Text.size? (Text.trimmed rest)) with
  | none => simp
  | some n =>
    dsimp only
    split
    · next hbad =>
      refine iff_of_false nofun ?_
      rintro ⟨m, hm, hpos, hle, -⟩
      obtain rfl := Option.some.inj hm
      omega
    · next hgood =>
      have hpos : 1 ≤ n := by omega
      have hle : n ≤ d.console.history.entries.length := by omega
      have hwalk := d.console.history.current?_repeat_up hpos hle
      rw [hwalk]
      have hlt : n - 1 < d.console.history.entries.reverse.length := by
        rw [List.length_reverse]
        omega
      rw [List.getElem?_eq_getElem hlt]
      simp [hpos, hle, List.getElem?_eq_getElem hlt]

/-! ## One line -/

variable {line : String}

theorem commandName?_of_offers {text : String} (h : d.Offers line text) :
    commandName? line ≠ some "clear-history" := by
  intro hclear
  cases h with
  | typed hnonblank hcolon =>
    obtain ⟨rest, hline, -⟩ := commandName?_eq_some_iff.mp hclear
    rw [Text.trimmed, String.toList_ofList, hline] at hcolon
    exact hcolon rfl
  | again hline =>
    rw [commandName?_eq_some_iff.mpr ⟨_, hline⟩] at hclear
    exact absurd (Option.some.inj hclear) (by decide)

/-- A line stands for one order at most. -/
theorem Offers.unique {a b : String} (ha : d.Offers line a) (hb : d.Offers line b) : a = b := by
  have hapart : ∀ {rest}, (Text.trimmed line).toList.head? ≠ some ':' →
      ¬IsCommand line "again" rest := by
    rintro rest hcolon ⟨hline, -⟩
    rw [Text.trimmed, String.toList_ofList, hline] at hcolon
    exact hcolon rfl
  cases ha with
  | typed _ hcolon =>
    cases hb with
    | typed => rfl
    | again hline => exact absurd hline (hapart hcolon)
  | again hline hsteps _ _ hentry =>
    cases hb with
    | typed _ hcolon => exact absurd hline (hapart hcolon)
    | again hline' hsteps' _ _ hentry' =>
      obtain rfl : _ = _ := String.toList_inj.mp
        (List.append_cancel_left (List.cons.inj (hline.1.symm.trans hline'.1)).2)
      obtain rfl := Option.some.inj (hsteps.symm.trans hsteps')
      exact Option.some.inj (hentry.symm.trans hentry')

variable [Store σ]

theorem eval_of_colon {command : List Char} (hline : Text.trim line.toList = ':' :: command) :
    d.eval line = d.obey (String.ofList command) := by
  rw [eval, hline]
  rfl

theorem eval_again {rest : String} (h : IsCommand line "again" rest)
    {outcome : Except String String} {d' : Dialogue σ}
    (hback : d.entryBack (Text.trimmed rest) = (outcome, d')) :
    d.eval line =
      match outcome with
      | .ok entry => d'.send entry
      | .error message => (.ok (.output message), d') := by
  obtain ⟨hname, hrest⟩ := splitCommand_of_isCommand h.1 h
  rw [eval_of_colon h.1, obey]
  simp only [hname, hrest, hback]
  cases outcome <;> rfl

/-- A line that stands for an order is sent as that order, after the walk
that finds it. -/
theorem eval_of_offers {text : String} (h : d.Offers line text) :
    ∃ cursor,
      d.eval line = ({ d with console.history.cursor := cursor } : Dialogue σ).send text := by
  cases h with
  | typed hnonblank hcolon =>
    refine ⟨d.console.history.cursor, ?_⟩
    unfold eval
    split
    · next hline => simp [Text.trimmed, hline] at hnonblank
    · next command hline => simp [Text.trimmed, hline] at hcolon
    · rfl
  | @again rest entry n hline hsteps hpos hle hentry =>
    have hback := entryBack_eq_ok_iff.mpr ⟨n, hsteps, hpos, hle, hentry⟩
    obtain ⟨cursor, hwalked⟩ := d.entryBack_snd (Text.trimmed rest)
    exact ⟨cursor, eval_again hline (Prod.ext hback hwalked)⟩

/-- The change to the history that a line without an order makes: clearing
it, if that is what the line says. -/
def clearing (line : String) : List History.Action :=
  if commandName? line = some "clear-history" then [.clear] else []

/-- From one dialogue to another the history went through the actions, and
what they added was given for recall. -/
structure Continues (d d' : Dialogue σ) (actions : List History.Action) : Prop where
  config : d'.console.config = d.console.config
  history : d'.console.history.SameRecord (d.console.history.run actions)
  recalled : d'.editor.recalled = d.editor.recalled ++ actions.filterMap History.Action.added?

theorem Continues.refl (d : Dialogue σ) : d.Continues d [] :=
  ⟨rfl, rfl, by simp⟩

theorem continues_cursor (d : Dialogue σ) (cursor : Option Nat) :
    d.Continues { d with console.history.cursor := cursor } [] :=
  ⟨rfl, rfl, by simp⟩

/-- The commands that are neither of the two that touch the history leave
everything as it is. -/
theorem obey_of_ne {command : String} (hagain : (splitCommand command).1 ≠ "again")
    (hclear : (splitCommand command).1 ≠ "clear-history") :
    (∀ sub, (d.obey command).1 ≠ .ok (.sent sub)) ∧ (d.obey command).2 = d := by
  unfold obey
  generalize splitCommand command = parts at hagain hclear
  obtain ⟨name, rest⟩ := parts
  dsimp only at hagain hclear ⊢
  split
  · exact absurd rfl hagain
  all_goals first
    | exact absurd rfl hclear
    | exact ⟨nofun, rfl⟩

theorem obey_clear {command : String} (h : (splitCommand command).1 = "clear-history") :
    d.obey command =
      (.ok (.output "history cleared"), { d with console.history := d.console.history.clear }) := by
  unfold obey
  simp only [h]

/-- A line that stands for no order is never sent, and changes the history
only by clearing it. -/
theorem eval_of_not_offers (hno : ∀ text, ¬d.Offers line text) :
    (∀ sub, (d.eval line).1 ≠ .ok (.sent sub)) ∧ d.Continues (d.eval line).2 (clearing line) ∧
      (d.eval line).2.snapshot = d.snapshot := by
  cases hline : Text.trim line.toList with
  | nil =>
    have heval : d.eval line = (.ok .nothing, d) := by rw [eval, hline]
    have hclearing : clearing line = [] := by simp [clearing, commandName?, hline]
    rw [heval, hclearing]
    exact ⟨nofun, .refl d, rfl⟩
  | cons c command =>
    by_cases hcolon : c = ':'
    · subst hcolon
      have hname : commandName? line = some (splitCommand (String.ofList command)).1 := by
        simp [commandName?, hline]
      obtain ⟨rest, hcommand⟩ := exists_isCommand hline
      by_cases hagain : (splitCommand (String.ofList command)).1 = "again"
      · have hclearing : clearing line = [] := by simp [clearing, hname, hagain]
        rw [hagain] at hcommand
        obtain ⟨cursor, hwalked⟩ := d.entryBack_snd (Text.trimmed rest)
        cases hback : (d.entryBack (Text.trimmed rest)).1 with
        | ok entry =>
          obtain ⟨n, hsteps, hpos, hle, hentry⟩ := entryBack_eq_ok_iff.mp hback
          exact absurd (.again hcommand hsteps hpos hle hentry) (hno entry)
        | error message =>
          rw [eval_again hcommand (Prod.ext hback hwalked), hclearing]
          exact ⟨nofun, continues_cursor d cursor, rfl⟩
      · by_cases hclear : (splitCommand (String.ofList command)).1 = "clear-history"
        · have hclearing : clearing line = [.clear] := by simp [clearing, hname, hclear]
          rw [eval_of_colon hline, obey_clear hclear, hclearing]
          exact ⟨nofun, ⟨rfl, rfl, by simp [History.Action.added?]⟩, rfl⟩
        · have hclearing : clearing line = [] := by simp [clearing, hname, hclear]
          obtain ⟨hsent, hsame⟩ := obey_of_ne (d := d) hagain hclear
          rw [eval_of_colon hline, hclearing, hsame]
          exact ⟨hsent, .refl d, rfl⟩
    · have htyped : d.Offers line (Text.trimmed line) :=
        .typed (by simp [Text.trimmed, hline]) (by simpa [Text.trimmed, hline] using hcolon)
      exact absurd htyped (hno _)

/-- The line sends an order, which is recorded once. -/
structure Sends (d : Dialogue σ) (line text : String) (sub : Submission) : Prop where
  offers : d.Offers line text
  check : d.snapshot.check text = .ok sub
  consents : d.Consents sub
  reply : (d.eval line).1 = .ok (.sent sub)
  console : (d.eval line).2.console = d.console.commit sub
  recalled : (d.eval line).2.editor.recalled = d.editor.recalled ++ [sub.wire]
  snapshot : (d.eval line).2.snapshot = d.snapshot

/-- The line sends nothing, and nothing is recorded. -/
structure SendsNothing (d : Dialogue σ) (line : String) : Prop where
  refused : ∀ text sub, d.Offers line text → d.snapshot.check text = .ok sub → ¬d.Consents sub
  reply : ∀ sub, (d.eval line).1 ≠ .ok (.sent sub)
  continues : d.Continues (d.eval line).2 (clearing line)
  snapshot : (d.eval line).2.snapshot = d.snapshot

/-- The walk before an order is sent touches nothing that sending looks
at. -/
theorem sends_of_offers {text : String} {sub : Submission} (htext : d.Offers line text)
    (hcheck : d.snapshot.check text = .ok sub) (hconsents : d.Consents sub) :
    d.Sends line text sub := by
  obtain ⟨cursor, heval⟩ := eval_of_offers htext
  obtain ⟨d', hsame, hsent⟩ :=
    send_of_consents (d := { d with console.history.cursor := cursor }) hcheck hconsents
  have hadd := (History.sameRecord_cursor d.console.history cursor).add sub.wire
  rw [hsent] at heval
  refine ⟨htext, hcheck, hconsents, ?_, ?_, ?_, ?_⟩
  · rw [heval]
  · rw [heval, record, hsame.console]
    exact congrArg (Console.mk d.console.config) hadd
  · rw [heval, record, LineEditor.addHistory, hsame.recalled]
  · rw [heval, record, hsame.snapshot]

theorem sendsNothing_of_refused {text : String} (htext : d.Offers line text)
    (hrefused : ∀ sub, d.snapshot.check text = .ok sub → ¬d.Consents sub) :
    d.SendsNothing line := by
  obtain ⟨cursor, heval⟩ := eval_of_offers htext
  obtain ⟨hsent, hsame⟩ :=
    send_of_refused (d := { d with console.history.cursor := cursor }) hrefused
  have hclearing : clearing line = [] := if_neg (commandName?_of_offers htext)
  refine ⟨fun text' sub htext' => ?_, heval ▸ hsent, ?_, heval ▸ hsame.snapshot⟩
  · exact htext.unique htext' ▸ hrefused sub
  · rw [heval, hclearing]
    refine ⟨by rw [hsame.console], ?_, by simp [hsame.recalled]⟩
    rw [hsame.console]
    exact History.sameRecord_cursor d.console.history cursor

/-- A line sends one order or nothing. -/
theorem sends_or_sendsNothing (d : Dialogue σ) (line : String) :
    (∃ text sub, d.Sends line text sub) ∨ d.SendsNothing line := by
  by_cases hoffers : ∃ text, d.Offers line text
  · obtain ⟨text, htext⟩ := hoffers
    by_cases hsend : ∃ sub, d.snapshot.check text = .ok sub ∧ d.Consents sub
    · obtain ⟨sub, hcheck, hconsents⟩ := hsend
      exact .inl ⟨text, sub, sends_of_offers htext hcheck hconsents⟩
    · refine .inr (sendsNothing_of_refused htext fun sub hcheck hconsents => ?_)
      exact hsend ⟨sub, hcheck, hconsents⟩
  · have hno := not_exists.mp hoffers
    obtain ⟨hsent, hcontinues, hsnapshot⟩ := eval_of_not_offers hno
    exact .inr ⟨fun text _ htext => absurd htext (hno text), hsent, hcontinues, hsnapshot⟩

/-- A line is sent exactly when it stands for an order that passes the check
and the player agrees. -/
theorem eval_eq_sent_iff (d : Dialogue σ) (line : String) (sub : Submission) :
    (d.eval line).1 = .ok (.sent sub) ↔
      ∃ text, d.Offers line text ∧ d.snapshot.check text = .ok sub ∧ d.Consents sub := by
  constructor
  · intro h
    obtain ⟨text, sub', hsends⟩ | hnothing := d.sends_or_sendsNothing line
    · obtain rfl : sub' = sub := by simpa using hsends.reply.symm.trans h
      exact ⟨text, hsends.offers, hsends.check, hsends.consents⟩
    · exact absurd h (hnothing.reply sub)
  · rintro ⟨text, htext, hcheck, hconsents⟩
    exact (sends_of_offers htext hcheck hconsents).reply

/-- What was sent is recorded once and given for recall once. -/
theorem eval_sent {sub : Submission} (h : (d.eval line).1 = .ok (.sent sub)) :
    (d.eval line).2.console.history = d.console.history.add sub.wire ∧
      (d.eval line).2.editor.recalled = d.editor.recalled ++ [sub.wire] := by
  obtain ⟨text, htext, hcheck, hconsents⟩ := (d.eval_eq_sent_iff line sub).mp h
  have hsends := sends_of_offers htext hcheck hconsents
  exact ⟨by rw [hsends.console, Console.commit], hsends.recalled⟩

/-- What was not sent is not recorded; only the command that clears the
history changes it. -/
theorem eval_not_sent (h : ∀ sub, (d.eval line).1 ≠ .ok (.sent sub)) :
    d.Continues (d.eval line).2 (clearing line) := by
  obtain ⟨_, sub, hsends⟩ | hnothing := d.sends_or_sendsNothing line
  · exact absurd hsends.reply (h sub)
  · exact hnothing.continues

theorem snapshot_eval (d : Dialogue σ) (line : String) :
    (d.eval line).2.snapshot = d.snapshot := by
  obtain ⟨_, _, hsends⟩ | hnothing := d.sends_or_sendsNothing line
  · exact hsends.snapshot
  · exact hnothing.snapshot

/-! ## Many lines -/

theorem Continues.trans {d₁ d₂ d₃ : Dialogue σ} {as bs : List History.Action}
    (h : d₁.Continues d₂ as) (h' : d₂.Continues d₃ bs) : d₁.Continues d₃ (as ++ bs) where
  config := h'.config.trans h.config
  history := by
    rw [History.run, List.foldl_append]
    exact h'.history.trans (h.history.run bs)
  recalled := by rw [h'.recalled, h.recalled, List.filterMap_append, List.append_assoc]

/-- What is done with a dialogue between two lines of the player's, and a
line. -/
inductive Turn where
  | line (text : String)
  | snapshot (s : Snapshot)

/-- The dialogue after a turn. -/
def turn (d : Dialogue σ) : Turn → Dialogue σ
  | .line text => (d.eval text).2
  | .snapshot s => d.setSnapshot s

/-- The dialogue after some turns. -/
def after (d : Dialogue σ) (turns : List Turn) : Dialogue σ :=
  turns.foldl turn d

/-- The changes to the history that a turn makes: recording what was sent,
or clearing the history. -/
def changes (d : Dialogue σ) : Turn → List History.Action
  | .line text =>
    match (d.eval text).1 with
    | .ok (.sent sub) => [.add sub.wire]
    | _ => clearing text
  | .snapshot _ => []

/-- The changes of some turns, one after the other. -/
def changesOf (d : Dialogue σ) : List Turn → List History.Action
  | [] => []
  | t :: turns => d.changes t ++ (d.turn t).changesOf turns

theorem continues_eval (d : Dialogue σ) (line : String) :
    d.Continues (d.eval line).2 (d.changes (.line line)) := by
  obtain ⟨_, sub, hsends⟩ | hnothing := d.sends_or_sendsNothing line
  · rw [changes, hsends.reply]
    refine ⟨by rw [hsends.console, Console.commit], ?_, hsends.recalled⟩
    rw [hsends.console, Console.commit]
    exact .refl _
  · -- the reply is known only by what it is not, which is all that `changes` asks
    have hreply := hnothing.reply
    have hchanges : d.changes (.line line) = clearing line := by
      simp only [changes]
    exact hchanges ▸ hnothing.continues

theorem continues_turn (d : Dialogue σ) (t : Turn) : d.Continues (d.turn t) (d.changes t) := by
  cases t with
  | line text => exact d.continues_eval text
  | snapshot s => exact ⟨rfl, rfl, by simp [changes, turn, setSnapshot, LineEditor.setSnapshot]⟩

theorem continues_after (d : Dialogue σ) (turns : List Turn) :
    d.Continues (d.after turns) (d.changesOf turns) := by
  induction turns generalizing d with
  | nil => exact .refl d
  | cons t turns ih => exact (d.continues_turn t).trans (ih (d.turn t))

/-- A dialogue sends no order that the player has not agreed to, and records
nothing that it did not send. After any turns a line is sent exactly when it
stands for an order that passes the check against the snapshot of the moment
and that the player agrees to; then its canonical text is recorded once and
given for recall once. Any other line leaves the entries, the store and the
list for recall alone, unless it says that the history is to be cleared. So
the history is what the orders sent and the clearings have made of it. -/
theorem sends_what_is_agreed (start : Dialogue σ) (turns : List Turn) (line : String) :
    let d := start.after turns
    let d' := (d.eval line).2
    (∀ sub, (d.eval line).1 = .ok (.sent sub) ↔
      ∃ text, d.Offers line text ∧ d.snapshot.check text = .ok sub ∧ d.Consents sub) ∧
    (∀ sub, (d.eval line).1 = .ok (.sent sub) →
      d'.console.history = d.console.history.add sub.wire ∧
        d'.editor.recalled = d.editor.recalled ++ [sub.wire]) ∧
    ((∀ sub, (d.eval line).1 ≠ .ok (.sent sub)) →
      d'.editor.recalled = d.editor.recalled ∧
        if commandName? line = some "clear-history" then
          d'.console.history.entries = [] ∧ d'.console.history.store =
            (Store.put d.console.history.store d.console.history.key (History.entryBytes [])).2
        else d'.console.history.entries = d.console.history.entries ∧
          d'.console.history.store = d.console.history.store) ∧
    start.Continues d (start.changesOf turns) := by
  intro d d'
  refine ⟨d.eval_eq_sent_iff line, fun sub => eval_sent, fun hno => ?_,
    start.continues_after turns⟩
  have hcontinues := eval_not_sent hno
  by_cases hclear : commandName? line = some "clear-history"
  · rw [clearing, if_pos hclear] at hcontinues
    refine ⟨hcontinues.recalled.trans (List.append_nil _), ?_⟩
    rw [if_pos hclear]
    exact ⟨hcontinues.history.entries, hcontinues.history.store⟩
  · rw [clearing, if_neg hclear] at hcontinues
    refine ⟨hcontinues.recalled.trans (List.append_nil _), ?_⟩
    rw [if_neg hclear]
    exact ⟨hcontinues.history.entries, hcontinues.history.store⟩

/-! ## Whole conversations -/

/-- The action records an order that passes the check, or clears the
history. -/
def Allowed (s : Snapshot) (a : History.Action) : Prop :=
  a = .clear ∨ ∃ text sub, s.check text = .ok sub ∧ a = .add sub.wire

theorem allowed_of_mem_changes {line : String} {a : History.Action}
    (h : a ∈ d.changes (.line line)) : Allowed d.snapshot a := by
  obtain ⟨text, sub, hsends⟩ | hnothing := d.sends_or_sendsNothing line
  · rw [changes, hsends.reply, List.mem_singleton] at h
    exact .inr ⟨text, sub, hsends.check, h⟩
  · have hreply := hnothing.reply
    simp only [changes, clearing] at h
    split at h
    · exact .inl (List.mem_singleton.mp h)
    · cases h

theorem recalled_readLine (e : LineEditor) (prompt : String) :
    (e.readLine prompt).2.recalled = e.recalled := by
  unfold LineEditor.readLine
  split <;> rfl

theorem continues_report (d : Dialogue σ) (reply : Reply) : d.Continues (d.report reply) [] := by
  cases reply <;> exact ⟨rfl, .refl _, (List.append_nil _).symm⟩

omit [Store σ] in
theorem snapshot_report (d : Dialogue σ) (reply : Reply) :
    (d.report reply).snapshot = d.snapshot := by
  cases reply <;> rfl

theorem exists_continues_converse (rounds : Nat) (d : Dialogue σ) :
    ∃ actions, d.Continues (converse rounds d).2 actions ∧
      ∀ a ∈ actions, Allowed d.snapshot a := by
  induction rounds generalizing d with
  | zero => exact ⟨[], .refl d, nofun⟩
  | succ rounds ih =>
    have hrecalled := recalled_readLine d.editor d.console.config.prompt
    unfold converse
    generalize d.editor.readLine d.console.config.prompt = asked at hrecalled
    obtain ⟨answer, editor⟩ := asked
    have hprompt : d.Continues { d with editor } [] := ⟨rfl, .refl _, by simpa using hrecalled⟩
    cases answer with
    | endOfInput => exact ⟨[], hprompt, nofun⟩
    | failed fault => exact ⟨[], hprompt, nofun⟩
    | interrupted =>
      obtain ⟨actions, hrest, hallowed⟩ := ih { d with editor }
      exact ⟨actions, hprompt.trans hrest, hallowed⟩
    | line text =>
      have hline := hprompt.trans (continues_eval { d with editor } text)
      have hsnapshot := snapshot_eval { d with editor } text
      have hfirst : ∀ a ∈ changes { d with editor } (.line text), Allowed d.snapshot a :=
        fun a ha => allowed_of_mem_changes (d := { d with editor }) ha
      dsimp only
      split
      · next fault d' heval => exact ⟨_, by simpa [heval] using hline, hfirst⟩
      · next d' heval => exact ⟨_, by simpa [heval] using hline, hfirst⟩
      · next reply d' _ heval =>
        obtain ⟨actions, hrest, hallowed⟩ := ih (d'.report reply)
        rw [heval] at hline hsnapshot
        rw [snapshot_report, hsnapshot] at hallowed
        refine ⟨_, hline.trans ((continues_report d' reply).trans hrest), fun a ha => ?_⟩
        exact (List.mem_append.mp ha).elim (hfirst a) (hallowed a)

/-- A conversation as a whole records orders that pass the check, gives them
for recall in the order of recording, and clears the history; it changes the
history in no other way. -/
theorem exists_continues_run (d : Dialogue σ) :
    ∃ actions, d.Continues d.run.2 actions ∧ ∀ a ∈ actions, Allowed d.snapshot a := by
  have hgreet : d.Continues d.greet [] := ⟨rfl, .refl _, (List.append_nil _).symm⟩
  obtain ⟨actions, hcontinues, hallowed⟩ :=
    exists_continues_converse (d.editor.answers.length + 1) d.greet
  exact ⟨actions, hgreet.trans hcontinues, hallowed⟩

end Dialogue

end FleetOrders
