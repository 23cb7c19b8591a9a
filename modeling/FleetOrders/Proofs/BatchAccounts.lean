/-
FleetOrders.Proofs.BatchAccounts — what a script comes to, told from its
lines.

A script is settled line by line, and each line by its own text: no check
looks at what was sent before. So a whole run can be told without running it.
`Batch.account` sorts the orders of a script, with the numbers of their
lines, into sent, held and rejected; a line adds its account to what was
there (`Batch.step_eq`), and so does a script (`Batch.lines_eq`). What is
said about runs is then said about lists.

* `Batch.settles_account` — every order is in exactly one list, and the lists
  are in the order of lines.
* `Batch.merge_sent_held` — accepting warnings sends the held orders too, at
  their places.
* `Batch.submissions_account` — what is sent does not depend on the numbers
  of lines.
* `Batch.run_accounts` — all of it, about runs.
-/
import FleetOrders.Console.Batch
import FleetOrders.Snapshot.Demo
import Mathlib.Data.List.Nodup

namespace FleetOrders

/-! ## Sinks with room -/

namespace Sink

/-- There is room for the text, and the end of the output does not fail. -/
structure Takes (k : Sink) (text : String) : Prop where
  flush : k.flushFailure = none
  room : ∀ bytes, k.capacity = some bytes →
    k.written.utf8ByteSize + text.utf8ByteSize ≤ bytes

/-- The sink after a text was written. -/
def after (k : Sink) (text : String) : Sink :=
  { k with written := k.written ++ text }

variable {k : Sink} {a b text : String}

theorem takes_unbounded (text : String) : unbounded.Takes text :=
  ⟨rfl, nofun⟩

theorem Takes.of_le (h : k.Takes b) (hle : a.utf8ByteSize ≤ b.utf8ByteSize) : k.Takes a :=
  ⟨h.flush, fun bytes hbytes => by have := h.room bytes hbytes; omega⟩

theorem Takes.left (h : k.Takes (a ++ b)) : k.Takes a :=
  h.of_le (by rw [String.utf8ByteSize_append]; omega)

theorem Takes.right (h : k.Takes (a ++ b)) : (k.after a).Takes b := by
  refine ⟨h.flush, fun bytes hbytes => ?_⟩
  have hroom := h.room bytes hbytes
  rw [String.utf8ByteSize_append] at hroom
  rw [after, String.utf8ByteSize_append]
  omega

@[simp] theorem after_empty (k : Sink) : k.after "" = k := by
  simp [after]

@[simp] theorem after_after (k : Sink) (a b : String) : (k.after a).after b = k.after (a ++ b) := by
  simp [after, String.append_assoc]

theorem write_of_takes (h : k.Takes text) : k.write text = .ok (k.after text) := by
  obtain ⟨written, capacity, flushFailure⟩ := k
  cases capacity with
  | none => rfl
  | some bytes =>
    have hroom : written.utf8ByteSize + text.utf8ByteSize ≤ bytes := h.room bytes rfl
    exact if_neg (Nat.not_lt.mpr hroom)

theorem writeLine_of_takes (h : k.Takes (text ++ "\n")) :
    k.writeLine text = (none, k.after (text ++ "\n")) := by
  rw [writeLine, write_of_takes h.left]
  dsimp only
  rw [write_of_takes h.right, after_after]

end Sink

namespace Batch

/-! ## The orders of a script -/

/-- A line of a script that says something. -/
structure Order where
  /-- The number of the line. -/
  number : Nat
  /-- The line without the blanks around it. -/
  text : String
  deriving DecidableEq, Repr

/-- The orders of a script whose first line has the given number. Lines that
are passed over are counted. -/
def orders (first : Nat) (script : List String) : List Order :=
  (script.zipIdx first).filterMap fun (line, number) =>
    if isPassedOver (Text.trimmed line) then none else some ⟨number, Text.trimmed line⟩

theorem isPassedOver_eq_false_iff {text : String} :
    isPassedOver text = false ↔ text ≠ "" ∧ text.toList.head? ≠ some '#' := by
  simp [isPassedOver]

theorem mem_orders_iff {first : Nat} {script : List String} {o : Order} :
    o ∈ orders first script ↔ ∃ line, first ≤ o.number ∧
      script[o.number - first]? = some line ∧ o.text = Text.trimmed line ∧ o.text ≠ "" ∧
      o.text.toList.head? ≠ some '#' := by
  unfold orders
  rw [List.mem_filterMap]
  constructor
  · rintro ⟨⟨line, number⟩, hline, ho⟩
    obtain ⟨hle, hline⟩ := List.mk_mem_zipIdx_iff_le_and_getElem?_sub.mp hline
    rw [Option.ite_none_left_eq_some, Option.some.injEq] at ho
    obtain ⟨hspeaks, rfl⟩ := ho
    exact ⟨line, hle, hline, rfl, isPassedOver_eq_false_iff.mp (by simpa using hspeaks)⟩
  · rintro ⟨line, hle, hline, htext, hspeaks⟩
    refine ⟨(line, o.number), List.mk_mem_zipIdx_iff_le_and_getElem?_sub.mpr ⟨hle, hline⟩, ?_⟩
    have hpassed := isPassedOver_eq_false_iff.mpr hspeaks
    simp [← htext, hpassed]

theorem orders_append (first : Nat) (xs ys : List String) :
    orders first (xs ++ ys) = orders first xs ++ orders (first + xs.length) ys := by
  rw [orders, List.zipIdx_append, List.filterMap_append]
  rfl

theorem pairwise_orders (first : Nat) (script : List String) :
    (orders first script).Pairwise (·.number < ·.number) := by
  have hnumbers : (script.zipIdx first).Pairwise (·.2 < ·.2) := by
    rw [← List.pairwise_map (f := Prod.snd) (R := (· < ·)), List.zipIdx_map_snd]
    exact List.pairwise_lt_range' 1
  refine hnumbers.filterMap _ ?_
  rintro ⟨_, m⟩ ⟨_, n⟩ hlt o ho p hp
  simp only [Option.ite_none_left_eq_some, Option.some.injEq] at ho hp
  rw [← ho.2, ← hp.2]
  exact hlt

theorem orders_cons (first : Nat) (line : String) (script : List String) :
    orders first (line :: script) =
      if isPassedOver (Text.trimmed line) then orders (first + 1) script
      else ⟨first, Text.trimmed line⟩ :: orders (first + 1) script := by
  unfold orders
  rw [List.zipIdx_cons]
  by_cases hpassed : isPassedOver (Text.trimmed line) = true <;> simp [hpassed]

theorem map_text_orders (first : Nat) (script : List String) :
    (orders first script).map Order.text =
      (script.map Text.trimmed).filter (!isPassedOver ·) := by
  induction script generalizing first with
  | nil => rfl
  | cons line script ih =>
    rw [orders_cons, List.map_cons, List.filter_cons]
    split
    · next hpassed => simp [hpassed, ih (first + 1)]
    · next hspeaks => simp [hspeaks, ih (first + 1)]

/-! ## Accounts -/

/-- An order of a script that passes the check. -/
structure Passed where
  order : Order
  submission : Submission
  deriving DecidableEq, Repr

namespace Passed

/-- The order is sent, and not held back. -/
def goes (accept : Bool) (p : Passed) : Bool :=
  accept || p.submission.warnings.isEmpty

/-- The order stands on an earlier line, or on the same. -/
def byLine (p q : Passed) : Bool :=
  p.order.number ≤ q.order.number

theorem byLine_trans (p q r : Passed) (hpq : p.byLine q = true) (hqr : q.byLine r = true) :
    p.byLine r = true := by
  simp only [byLine, decide_eq_true_eq] at hpq hqr ⊢
  omega

theorem byLine_total (p q : Passed) : (p.byLine q || q.byLine p) = true := by
  simp only [byLine, Bool.or_eq_true, decide_eq_true_eq]
  omega

/-- The order as it is reported when it is held back. -/
def problem (p : Passed) : Problem :=
  ⟨p.order.number, p.order.text, Text.joinWith "; " p.submission.warnings⟩

end Passed

/-- What a script comes to. -/
structure Account where
  sent : List Passed
  held : List Passed
  rejected : List Problem
  deriving DecidableEq, Repr

namespace Account

def submissions (a : Account) : List Submission :=
  a.sent.map Passed.submission

/-- The report on the account. -/
def report (a : Account) : BatchReport :=
  ⟨a.submissions.map Submission.wire, a.held.map Passed.problem, a.rejected⟩

/-- What is written out for the account: a line for each order sent. -/
def output (a : Account) : String :=
  String.join (a.submissions.map fun sub => sub.wire ++ "\n")

/-- What the account makes of a console. -/
def console {σ : Type} [Store σ] (a : Account) (c : Console σ) : Console σ :=
  a.submissions.foldl Console.commit c

/-- One account, then another. -/
def append (a b : Account) : Account :=
  ⟨a.sent ++ b.sent, a.held ++ b.held, a.rejected ++ b.rejected⟩

instance : Append Account := ⟨append⟩

variable (a b : Account)

@[simp] theorem submissions_append : (a ++ b).submissions = a.submissions ++ b.submissions :=
  List.map_append

@[simp] theorem held_append : (a ++ b).held = a.held ++ b.held := rfl

@[simp] theorem rejected_append : (a ++ b).rejected = a.rejected ++ b.rejected := rfl

@[simp] theorem output_append : (a ++ b).output = a.output ++ b.output := by
  simp [output]

@[simp] theorem console_append {σ : Type} [Store σ] (c : Console σ) :
    (a ++ b).console c = b.console (a.console c) := by
  simp [console]

end Account

variable (s : Snapshot) (accept : Bool)

/-- The orders that pass the check. -/
def passed (os : List Order) : List Passed :=
  os.filterMap fun o =>
    match s.check o.text with
    | .ok sub => some ⟨o, sub⟩
    | .error _ => none

/-- The orders that fail the check. -/
def refused (os : List Order) : List Problem :=
  os.filterMap fun o =>
    match s.check o.text with
    | .ok _ => none
    | .error e => some ⟨o.number, o.text, e.message⟩

/-- What orders come to. -/
def account (os : List Order) : Account :=
  ⟨(passed s os).filter (·.goes accept), (passed s os).filter (!·.goes accept), refused s os⟩

theorem account_append (os ps : List Order) :
    account s accept (os ++ ps) = account s accept os ++ account s accept ps := by
  simp only [account, passed, refused, List.filterMap_append, List.filter_append]
  rfl

section One

variable {s accept} {o : Order}

theorem account_of_error {e : SubmitError} (h : s.check o.text = .error e) :
    account s accept [o] = ⟨[], [], [⟨o.number, o.text, e.message⟩]⟩ := by
  simp [account, passed, refused, h]

theorem account_of_goes {sub : Submission} (h : s.check o.text = .ok sub)
    (hgoes : Passed.goes accept ⟨o, sub⟩ = true) : account s accept [o] = ⟨[⟨o, sub⟩], [], []⟩ := by
  simp [account, passed, refused, h, hgoes]

theorem account_of_stays {sub : Submission} (h : s.check o.text = .ok sub)
    (hstays : Passed.goes accept ⟨o, sub⟩ = false) :
    account s accept [o] = ⟨[], [⟨o, sub⟩], []⟩ := by
  simp [account, passed, refused, h, hstays]

end One

/-- What is sent for the text of an order. -/
def sent? (text : String) : Option Submission :=
  match s.check text with
  | .ok sub => if accept = true ∨ sub.warnings = [] then some sub else none
  | .error _ => none

/-- What is sent is told from the texts of the orders, whatever their
lines. -/
theorem submissions_account (os : List Order) :
    (account s accept os).submissions = (os.map Order.text).filterMap (sent? s accept) := by
  induction os with
  | nil => rfl
  | cons o os ih =>
    rw [← List.singleton_append, account_append, Account.submissions_append, ih, List.map_append,
      List.filterMap_append]
    congr 1
    rw [List.map_singleton, List.filterMap_cons, List.filterMap_nil, sent?]
    cases hcheck : s.check o.text with
    | error e => rw [account_of_error hcheck]; rfl
    | ok sub =>
      dsimp only
      cases hgoes : Passed.goes accept ⟨o, sub⟩ with
      | true =>
        rw [account_of_goes hcheck hgoes, if_pos (by simpa [Passed.goes] using hgoes)]
        rfl
      | false =>
        rw [account_of_stays hcheck hgoes, if_neg (by simpa [Passed.goes] using hgoes)]
        rfl

theorem utf8ByteSize_join_le {l m : List String} (h : l.Sublist m) :
    (String.join l).utf8ByteSize ≤ (String.join m).utf8ByteSize := by
  induction h with
  | slnil => exact Nat.le_refl _
  | cons a h ih =>
    rw [String.join_cons, String.utf8ByteSize_append]
    omega
  | cons_cons a h ih =>
    rw [String.join_cons, String.join_cons, String.utf8ByteSize_append, String.utf8ByteSize_append]
    omega

/-- Accepting warnings never shortens the output. -/
theorem output_le (os : List Order) :
    (account s accept os).output.utf8ByteSize ≤ (account s true os).output.utf8ByteSize := by
  refine utf8ByteSize_join_le (List.Sublist.map _ (List.Sublist.map _ ?_))
  have hall : (account s true os).sent = passed s os := by simp [account, Passed.goes]
  exact hall ▸ List.filter_sublist

/-! ## Every order is in one list -/

/-- The lists of an account have every order once, in the order of lines. -/
structure Settles (os : List Order) (a : Account) : Prop where
  /-- Rejected is what fails the check. -/
  rejected : ∀ o ∈ os, o.number ∈ a.rejected.map Problem.line ↔
    ∃ e, s.check o.text = .error e
  /-- Held is what passes it with warnings, unless these are accepted. -/
  held : ∀ o ∈ os, o.number ∈ a.held.map (·.order.number) ↔
    accept = false ∧ ∃ sub, s.check o.text = .ok sub ∧ sub.warnings ≠ []
  /-- Sent is what else passes it. -/
  sent : ∀ o ∈ os, o.number ∈ a.sent.map (·.order.number) ↔
    ∃ sub, s.check o.text = .ok sub ∧ (accept = true ∨ sub.warnings = [])
  once : (a.sent.map (·.order.number) ++ a.held.map (·.order.number) ++
    a.rejected.map Problem.line).Perm (os.map Order.number)
  sentInOrder : a.sent.Pairwise (·.order.number < ·.order.number)
  heldInOrder : a.held.Pairwise (·.order.number < ·.order.number)
  rejectedInOrder : a.rejected.Pairwise (·.line < ·.line)

section Settles

variable {s accept} {os : List Order}

theorem mem_passed_iff {p : Passed} :
    p ∈ passed s os ↔ p.order ∈ os ∧ s.check p.order.text = .ok p.submission := by
  unfold passed
  rw [List.mem_filterMap]
  constructor
  · rintro ⟨o, ho, hp⟩
    split at hp
    · next sub hcheck =>
      obtain rfl := Option.some.inj hp
      exact ⟨ho, hcheck⟩
    · cases hp
  · rintro ⟨ho, hcheck⟩
    exact ⟨p.order, ho, by rw [hcheck]⟩

theorem mem_refused_iff {p : Problem} :
    p ∈ refused s os ↔ ∃ e, ⟨p.line, p.input⟩ ∈ os ∧ s.check p.input = .error e ∧
      p.reason = e.message := by
  unfold refused
  rw [List.mem_filterMap]
  constructor
  · rintro ⟨o, ho, hp⟩
    split at hp
    · cases hp
    · next e hcheck =>
      obtain rfl := Option.some.inj hp
      exact ⟨e, ho, hcheck, rfl⟩
  · rintro ⟨e, ho, hcheck, hreason⟩
    refine ⟨⟨p.line, p.input⟩, ho, ?_⟩
    dsimp only
    rw [hcheck]
    dsimp only
    rw [← hreason]

/-- A line has one order at most. -/
theorem eq_of_number_eq (hsorted : os.Pairwise (·.number < ·.number)) {o p : Order} (ho : o ∈ os)
    (hp : p ∈ os) (h : o.number = p.number) : o = p := by
  have hnodup : (os.map Order.number).Nodup := List.pairwise_map.mpr (hsorted.imp Nat.ne_of_lt)
  exact List.inj_on_of_nodup_map hnodup ho hp h

/-- Whether a line is among the orders that pass and meet a condition is told
by its own order. -/
theorem number_mem_passed_iff (hsorted : os.Pairwise (·.number < ·.number)) {o : Order}
    (ho : o ∈ os) (q : Passed → Bool) :
    o.number ∈ ((passed s os).filter q).map (·.order.number) ↔
      ∃ sub, s.check o.text = .ok sub ∧ q ⟨o, sub⟩ = true := by
  simp only [List.mem_map, List.mem_filter, mem_passed_iff]
  constructor
  · rintro ⟨⟨p, sub⟩, ⟨⟨hp, hcheck⟩, hq⟩, hnumber⟩
    obtain rfl : p = o := eq_of_number_eq hsorted hp ho hnumber
    exact ⟨sub, hcheck, hq⟩
  · rintro ⟨sub, hcheck, hq⟩
    exact ⟨⟨o, sub⟩, ⟨⟨ho, hcheck⟩, hq⟩, rfl⟩

theorem line_mem_refused_iff (hsorted : os.Pairwise (·.number < ·.number)) {o : Order}
    (ho : o ∈ os) :
    o.number ∈ (refused s os).map Problem.line ↔ ∃ e, s.check o.text = .error e := by
  simp only [List.mem_map, mem_refused_iff]
  constructor
  · rintro ⟨p, ⟨e, hp, hcheck, -⟩, hnumber⟩
    obtain rfl := eq_of_number_eq hsorted hp ho hnumber
    exact ⟨e, hcheck⟩
  · rintro ⟨e, hcheck⟩
    exact ⟨⟨o.number, o.text, e.message⟩, ⟨e, ho, hcheck, rfl⟩, rfl⟩

/-- An order is refused or passes. -/
theorem passed_append_refused_perm (os : List Order) :
    ((passed s os).map (·.order.number) ++ (refused s os).map Problem.line).Perm
      (os.map Order.number) := by
  induction os with
  | nil => exact .nil
  | cons o os ih =>
    cases hcheck : s.check o.text with
    | ok sub =>
      have hpassed : passed s (o :: os) = ⟨o, sub⟩ :: passed s os := by simp [passed, hcheck]
      have hrefused : refused s (o :: os) = refused s os := by simp [refused, hcheck]
      rw [hpassed, hrefused]
      exact ih.cons o.number
    | error e =>
      have hpassed : passed s (o :: os) = passed s os := by simp [passed, hcheck]
      have hrefused : refused s (o :: os) = ⟨o.number, o.text, e.message⟩ :: refused s os := by
        simp [refused, hcheck]
      rw [hpassed, hrefused]
      exact List.perm_middle.trans (ih.cons o.number)

theorem pairwise_passed (hsorted : os.Pairwise (·.number < ·.number)) :
    (passed s os).Pairwise (·.order.number < ·.order.number) := by
  refine hsorted.filterMap _ ?_
  intro o p hlt x hx y hy
  split at hx
  · split at hy
    · obtain rfl := Option.some.inj hx
      obtain rfl := Option.some.inj hy
      exact hlt
    · cases hy
  · cases hx

theorem pairwise_refused (hsorted : os.Pairwise (·.number < ·.number)) :
    (refused s os).Pairwise (·.line < ·.line) := by
  refine hsorted.filterMap _ ?_
  intro o p hlt x hx y hy
  split at hx
  · cases hx
  · split at hy
    · cases hy
    · obtain rfl := Option.some.inj hx
      obtain rfl := Option.some.inj hy
      exact hlt

/-- Orders on ascending lines are settled by their account. -/
theorem settles_account (hsorted : os.Pairwise (·.number < ·.number)) :
    Settles s accept os (account s accept os) where
  rejected _ := line_mem_refused_iff hsorted
  held o ho := by
    rw [account, number_mem_passed_iff hsorted ho]
    cases accept <;> simp [Passed.goes]
  sent o ho := by
    rw [account, number_mem_passed_iff hsorted ho]
    simp [Passed.goes]
  once := by
    have hsplit := (List.filter_append_perm (·.goes accept) (passed s os)).map (·.order.number)
    rw [List.map_append] at hsplit
    exact (hsplit.append_right _).trans (passed_append_refused_perm os)
  sentInOrder := (pairwise_passed hsorted).filter _
  heldInOrder := (pairwise_passed hsorted).filter _
  rejectedInOrder := pairwise_refused hsorted

/-- What was parted into sent and held is merged again by the numbers of
lines. -/
theorem merge_sent_held (hsorted : os.Pairwise (·.number < ·.number)) :
    (account s false os).sent.merge (account s false os).held Passed.byLine =
      (account s true os).sent := by
  have hpassed := pairwise_passed (s := s) hsorted
  have hall : (account s true os).sent = passed s os := by
    simp [account, Passed.goes]
  have hbyLine : ∀ {l : List Passed}, l.Pairwise (·.order.number < ·.order.number) →
      l.Pairwise fun p q => p.byLine q = true :=
    fun h => h.imp fun hlt => decide_eq_true (Nat.le_of_lt hlt)
  have hmerged := List.pairwise_merge Passed.byLine_trans Passed.byLine_total _ _
    (hbyLine (hpassed.filter (Passed.goes false))) (hbyLine (hpassed.filter (!Passed.goes false ·)))
  have hperm := (List.merge_perm_append Passed.byLine).trans
    (List.filter_append_perm (Passed.goes false) (passed s os))
  rw [hall]
  refine List.Perm.eq_of_pairwise ?_ hmerged (hbyLine hpassed) hperm
  -- one line has one order, so the numbers tell the orders apart
  intro p q hp hq hpq hqp
  have hnodup : ((passed s os).map (·.order.number)).Nodup :=
    List.pairwise_map.mpr (hpassed.imp Nat.ne_of_lt)
  exact List.inj_on_of_nodup_map hnodup (hperm.subset hp) hq
    (Nat.le_antisymm (of_decide_eq_true hpq) (of_decide_eq_true hqp))

end Settles

/-! ## Runs -/

section Runs

variable {σ : Type} [Store σ] {s accept}

/-- A run after which an account is added. -/
def settle (b : Batch σ) (a : Account) : Batch σ where
  console := a.console b.console
  sink := b.sink.after a.output
  report :=
    ⟨b.report.sent ++ a.report.sent, b.report.held ++ a.report.held,
      b.report.rejected ++ a.report.rejected⟩

theorem settle_settle (b : Batch σ) (a₁ a₂ : Account) :
    (b.settle a₁).settle a₂ = b.settle (a₁ ++ a₂) := by
  have hreport : (a₁ ++ a₂).report = ⟨a₁.report.sent ++ a₂.report.sent,
      a₁.report.held ++ a₂.report.held, a₁.report.rejected ++ a₂.report.rejected⟩ := by
    simp [Account.report]
  simp [settle, hreport]

/-- A line that says something adds its account. -/
theorem step_eq (b : Batch σ) (number : Nat) {line : String}
    (hspeaks : isPassedOver (Text.trimmed line) = false)
    (hsink : b.sink.Takes (account s accept [⟨number, Text.trimmed line⟩]).output) :
    b.step s accept number line =
      (none, b.settle (account s accept [⟨number, Text.trimmed line⟩])) := by
  unfold step
  dsimp only
  rw [if_neg (by simp [hspeaks])]
  cases hcheck : s.check (Text.trimmed line) with
  | error e =>
    rw [account_of_error (o := ⟨number, Text.trimmed line⟩) hcheck]
    simp [settle, Account.report, Account.output, Account.console, Account.submissions]
  | ok sub =>
    dsimp only
    cases hgoes : Passed.goes accept ⟨⟨number, Text.trimmed line⟩, sub⟩ with
    | true =>
      rw [account_of_goes (o := ⟨number, Text.trimmed line⟩) hcheck hgoes] at hsink ⊢
      have hline : b.sink.Takes (sub.wire ++ "\n") := by
        simpa [Account.output, Account.submissions] using hsink
      have hasks : (sub.needsConfirmation && !accept) = false := by
        cases accept <;> simp_all [Passed.goes, Submission.needsConfirmation]
      rw [hasks, send, Sink.writeLine_of_takes hline]
      simp [settle, Account.report, Account.output, Account.console, Account.submissions]
    | false =>
      rw [account_of_stays (o := ⟨number, Text.trimmed line⟩) hcheck hgoes]
      have hasks : (sub.needsConfirmation && !accept) = true := by
        cases accept <;> simp_all [Passed.goes, Submission.needsConfirmation]
      rw [hasks]
      simp [settle, Account.report, Account.output, Account.console, Account.submissions,
        Passed.problem]

/-- A script adds its account. -/
theorem lines_eq (b : Batch σ) (number : Nat) (script : List String)
    (hsink : b.sink.Takes (account s accept (orders number script)).output) :
    b.lines s accept number (script.map .ok) =
      (none, b.settle (account s accept (orders number script))) := by
  induction script generalizing b number with
  | nil => simp [lines, orders, account, passed, refused, settle, Account.report, Account.output,
      Account.console, Account.submissions]
  | cons line script ih =>
    rw [orders_cons] at hsink ⊢
    rw [List.map_cons, lines]
    by_cases hpassed : isPassedOver (Text.trimmed line) = true
    · rw [if_pos hpassed] at hsink ⊢
      have hstep : b.step s accept number line = (none, b) := if_pos hpassed
      rw [hstep]
      exact ih b (number + 1) hsink
    · have hspeaks : isPassedOver (Text.trimmed line) = false := by simpa using hpassed
      rw [if_neg hpassed, ← List.singleton_append, account_append] at hsink ⊢
      rw [Account.output_append] at hsink
      rw [step_eq b number hspeaks hsink.left]
      dsimp only
      rw [ih _ (number + 1) hsink.right, settle_settle]

theorem run_eq (console : Console σ) (sink : Sink) (script : List String)
    (hsink : sink.Takes (account s accept (orders 1 script)).output) :
    run s accept console sink (script.map .ok) =
      (none, settle ⟨console, sink, .empty⟩ (account s accept (orders 1 script))) := by
  unfold run
  rw [lines_eq ⟨console, sink, .empty⟩ 1 script hsink]
  have hflush : (sink.after (account s accept (orders 1 script)).output).flushFailure = none :=
    hsink.flush
  simp [finish, settle, hflush]

/-- Two scripts, one after the other, come to what both come to as one. -/
theorem run_append (console : Console σ) (sink : Sink) (xs ys : List String)
    (hsink : sink.Takes (account s accept (orders 1 (xs ++ ys))).output) :
    let first := (run s accept console sink (xs.map .ok)).2
    let second := run s accept first.console first.sink (ys.map .ok)
    let whole := (run s accept console sink ((xs ++ ys).map .ok)).2
    second.1 = none ∧ second.2.sink = whole.sink ∧ second.2.console = whole.console ∧
      whole.report.sent = first.report.sent ++ second.2.report.sent := by
  have hsubmissions : (account s accept (orders (1 + xs.length) ys)).submissions =
      (account s accept (orders 1 ys)).submissions := by
    rw [submissions_account, submissions_account, map_text_orders, map_text_orders]
  have houtput : (account s accept (orders (1 + xs.length) ys)).output =
      (account s accept (orders 1 ys)).output := by
    rw [Account.output, Account.output, hsubmissions]
  have hwhole := run_eq console sink (xs ++ ys) hsink
  rw [orders_append, account_append] at hwhole
  rw [orders_append, account_append, Account.output_append, houtput] at hsink
  have hfirst := run_eq console sink xs hsink.left
  have hsecond := run_eq (settle ⟨console, sink, .empty⟩ (account s accept (orders 1 xs))).console
    (settle ⟨console, sink, .empty⟩ (account s accept (orders 1 xs))).sink ys hsink.right
  dsimp only
  rw [hwhole, hfirst, hsecond]
  simp [settle, houtput, Account.report, Account.console, hsubmissions, BatchReport.empty]

/-- A run accounts for every line of a script. What says something is an
order; each order is in exactly one of three lists, which are in the order
of lines, and the run reports these lists, writes out the orders sent and
commits them, in that order. Accepting warnings rejects the same orders and
sends those held back too, at their places. Two scripts run one after the
other come to what they come to as one. -/
theorem run_accounts (s : Snapshot) (console : Console σ) (sink : Sink) (script : List String)
    (hsink : sink.Takes (account s true (orders 1 script)).output) :
    (∀ o, o ∈ orders 1 script ↔ ∃ line, 1 ≤ o.number ∧ script[o.number - 1]? = some line ∧
      o.text = Text.trimmed line ∧ o.text ≠ "" ∧ o.text.toList.head? ≠ some '#') ∧
    (∀ accept,
      let a := account s accept (orders 1 script)
      Settles s accept (orders 1 script) a ∧
      run s accept console sink (script.map .ok) =
        (none, {
          console := a.submissions.foldl Console.commit console
          sink := { sink with
            written := sink.written ++ String.join (a.submissions.map fun x => x.wire ++ "\n") }
          report := ⟨a.submissions.map Submission.wire, a.held.map Passed.problem, a.rejected⟩ })) ∧
    (let careful := (run s false console sink (script.map .ok)).2.report
      let bold := (run s true console sink (script.map .ok)).2.report
      let a := account s false (orders 1 script)
      bold.rejected = careful.rejected ∧
      bold.sent = (a.sent.merge a.held Passed.byLine).map (·.submission.wire)) ∧
    ∀ accept xs ys, script = xs ++ ys →
      let first := (run s accept console sink (xs.map .ok)).2
      let second := run s accept first.console first.sink (ys.map .ok)
      let whole := (run s accept console sink (script.map .ok)).2
      second.1 = none ∧ second.2.sink = whole.sink ∧ second.2.console = whole.console ∧
        whole.report.sent = first.report.sent ++ second.2.report.sent := by
  have hsorted := pairwise_orders 1 script
  have hrun : ∀ accept, run s accept console sink (script.map .ok) =
      (none, settle ⟨console, sink, .empty⟩ (account s accept (orders 1 script))) :=
    fun accept => run_eq console sink script (hsink.of_le (output_le s accept _))
  refine ⟨fun o => mem_orders_iff, fun accept => ⟨settles_account hsorted, hrun accept⟩, ?_, ?_⟩
  · dsimp only
    rw [hrun, hrun, merge_sent_held hsorted]
    refine ⟨rfl, ?_⟩
    simp [settle, BatchReport.empty, Account.report, Account.submissions]
  · rintro accept xs ys rfl
    exact run_append console sink xs ys (hsink.of_le (output_le s accept _))

/-- On the demonstration map, with a comment, a blank line, an order with a
warning and one that is not legal. -/
theorem run_accounts_demo :
    let script := ["# opening moves", "f1 w2", "", "F1AF2", "F9W3", "TURN"]
    let console := Console.new .plain MemoryStore.empty
    Sink.unbounded.Takes (account .demo true (orders 1 script)).output ∧
    (run .demo false console .unbounded (script.map .ok)).2.sink.written = "F1W2\nTURN\n" ∧
    (account .demo false (orders 1 script)).held.map (·.order) = [⟨4, "F1AF2"⟩] ∧
    (run .demo true console .unbounded (script.map .ok)).2.report.sent =
      ["F1W2", "F1AF2", "TURN"] := by
  intro script console
  have hsink := Sink.takes_unbounded (account .demo true (orders 1 script)).output
  obtain ⟨-, hruns, ⟨-, hmerge⟩, -⟩ := run_accounts .demo console .unbounded script hsink
  refine ⟨hsink, ?_, by decide +kernel, ?_⟩
  · rw [(hruns false).2]
    decide +kernel
  · rw [hmerge, merge_sent_held (pairwise_orders 1 script)]
    decide +kernel

end Runs

end Batch

end FleetOrders
