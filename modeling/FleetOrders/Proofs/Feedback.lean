/-
FleetOrders.Proofs.Feedback — live feedback offers a line for sending
exactly when the line may be sent.

Feedback reads the line while it is typed and judges it leniently; a check
reads it for sending and judges it in full. The two agree, because

* the readings differ in left-over tokens only, and the feedback asks for
  none (`Reading.final_error_eq_none_iff`);
* complete commands are judged in one way (`assess_live_of_isComplete`),
  and a partial command is neither legal nor has it a wire text.

`submitSuggestion?_eq_check` says so in one equation. What is offered then
stays first among the suggestions, and it alone is ready to be sent.
-/
import FleetOrders.Console
import FleetOrders.Proofs.Legality
import FleetOrders.Proofs.Suggestions
import FleetOrders.Proofs.WireRoundTrip
import FleetOrders.Snapshot.Demo

namespace FleetOrders

/-- A submission as it is offered while the line is typed. -/
def Suggestion.ofSubmission (sub : Submission) : Suggestion :=
  match sub.warnings with
  | [] => .plain sub.wire sub.command.text .submit
  | warning :: _ =>
    (plain sub.wire (sub.command.text ++ " (" ++ warning ++ ")") .submit).dangerous

theorem Suggestion.ofSubmission_facts (sub : Submission) :
    (ofSubmission sub).kind = .submit ∧ (ofSubmission sub).text = sub.wire ∧
      (ofSubmission sub).danger = sub.needsConfirmation := by
  unfold ofSubmission Submission.needsConfirmation
  cases sub.warnings with
  | nil => exact ⟨rfl, rfl, rfl⟩
  | cons warning rest => exact ⟨rfl, rfl, rfl⟩

/-! ## One line, read twice -/

/-- What is offered for a complete command is what its check gives; for a
partial one there is neither. -/
theorem offer_eq_checkCommand (s : Snapshot) (c : Command) :
    (if (assess s .live (some c)).isValid then
        c.wire?.map fun wire =>
          Suggestion.ofSubmission ⟨wire, c, (assess s .live (some c)).warnings⟩
      else none) = (s.checkCommand c).toOption.map Suggestion.ofSubmission := by
  unfold Snapshot.checkCommand
  dsimp only
  cases hpartial : c.isPartial with
  | true =>
    -- feedback lets it pass, but it has no text to offer; a check rejects it
    have hillegal : (assess s .submission (some c)).isValid = false := by
      rw [Bool.eq_false_iff, Ne, isValid_assess_submission_iff]
      exact Snapshot.not_legal_of_isPartial hpartial
    have hwire : c.wire? = none := by
      simpa [Command.isComplete, hpartial] using c.isSome_wire?
    simp [hillegal, hwire, Except.toOption]
  | false =>
    have hcomplete : c.isComplete = true := by simp [Command.isComplete, hpartial]
    rw [assess_live_of_isComplete hcomplete]
    cases (assess s .submission (some c)).isValid with
    | false => rfl
    | true =>
      cases c.wire? with
      | none => rfl
      | some wire => rfl

/-- A line that is not finished, or not even read, has no submission. -/
theorem check_toOption_of_unread {s : Snapshot} {line : String}
    (h : (Reading.final line).error = none → (Reading.final line).command = none) :
    (s.check line).toOption = none := by
  unfold Snapshot.check
  dsimp only
  split
  · rfl
  · rfl
  · rename_i c herror hcommand
    rw [h herror] at hcommand
    cases hcommand

/-- The line itself is offered exactly when its check gives a submission,
and then the offer is that submission. -/
theorem submitSuggestion?_eq_check (s : Snapshot) (line : String) :
    submitSuggestion? (.live line) (assess s .live (Reading.live line).command) =
      (s.check line).toOption.map Suggestion.ofSubmission := by
  have hfinal := Reading.final_command line
  rw [submitSuggestion?, Reading.isOk]
  -- one command for both readings; only tokens left over tell them apart
  cases hcommand : (Reading.live line).command with
  | none =>
    rw [check_toOption_of_unread fun _ => hfinal.trans hcommand]
    simp
  | some c =>
    cases herror : (Reading.final line).error with
    | none =>
      obtain ⟨hread, hconsumed⟩ := (Reading.final_error_eq_none_iff line).mp herror
      have hcheck : s.check line = s.checkCommand c := by
        simp only [Snapshot.check, herror, hfinal, hcommand]
      rw [hread, hconsumed, hcheck, ← offer_eq_checkCommand]
      rfl
    | some e =>
      have hunfinished :
          ((Reading.live line).error.isNone && (Reading.live line).consumedAll) = false := by
        rw [Bool.eq_false_iff]
        intro hfinished
        rw [Bool.and_eq_true, Option.isNone_iff_eq_none,
          ← Reading.final_error_eq_none_iff, herror] at hfinished
        cases hfinished
      have hunread : (s.check line).toOption = none :=
        check_toOption_of_unread fun h => by rw [herror] at h; cases h
      rw [Option.isSome_some, Bool.and_true, hunfinished, hunread]
      rfl

/-- A valid command passes the check of its canonical text. -/
theorem Snapshot.check_wire {s : Snapshot} {c : Command} {wire : String}
    (hwire : c.wire? = some wire) (hformed : c.WellFormed)
    (hvalid : (assess s .submission (some c)).isValid = true) :
    s.check wire = .ok ⟨wire, c, (assess s .submission (some c)).warnings⟩ := by
  obtain ⟨herror, -, hcommand⟩ := Reading.final_wire hwire hformed
  simp [check, checkCommand, herror, hcommand, hvalid, hwire]

/-- What a submission was made of. -/
theorem check_ok_facts {s : Snapshot} {line : String} {sub : Submission}
    (h : s.check line = .ok sub) :
    (Reading.live line).command = some sub.command ∧ sub.command.wire? = some sub.wire := by
  rw [← Reading.final_command]
  unfold Snapshot.check at h
  dsimp only at h
  split at h
  · cases h
  · cases h
  · rename_i c _ hcommand
    unfold Snapshot.checkCommand at h
    dsimp only at h
    split at h
    · split at h
      · rename_i wire hwire
        injection h with h
        subst h
        exact ⟨hcommand, hwire⟩
      · cases h
    · cases h

/-- The canonical text of a submission is a complete command as well. -/
theorem isSubmittable_wire {s : Snapshot} {line : String} {sub : Submission}
    (h : s.check line = .ok sub) : isSubmittable sub.wire = true := by
  obtain ⟨hcommand, hwire⟩ := check_ok_facts h
  have hformed := Reading.wellFormed_of_live_command hcommand
  obtain ⟨herror, -, hread⟩ := Reading.final_wire hwire hformed
  have hcomplete := Command.isComplete_of_wire? hwire
  simp [isSubmittable, herror, hread, hcomplete]

/-! ## The suggestions for a line -/

/-- How the suggestions for a line are made of what is found for it. -/
theorem suggestions_eq (s : Snapshot) (limit : Nat) (line : String) :
    (s.analyze limit line).suggestions =
      ((distinctTexts [] ((submitSuggestion? (.live line)
          (assess s .live (Reading.live line).command)).toList ++
        s.staged limit line (.ofTokens (Reading.live line).tokens)
          (Reading.live line).stage)).take limit).map
        fun x => { x with complete := isSubmittable x.text } := rfl

/-- The suggestions for a line: the submission of its check first, then
those of its stage. -/
theorem suggestions_analyze (s : Snapshot) (limit : Nat) (line : String) :
    ∃ staged, NoSubmit staged ∧ (s.analyze limit line).suggestions =
      ((distinctTexts [] (((s.check line).toOption.map Suggestion.ofSubmission).toList ++
        staged)).take limit).map fun x => { x with complete := isSubmittable x.text } := by
  refine ⟨s.staged limit line (.ofTokens (Reading.live line).tokens) (Reading.live line).stage,
    s.noSubmit_staged limit line _ _, ?_⟩
  rw [suggestions_eq, submitSuggestion?_eq_check]

/-- Dropping repeated texts, cutting the end and marking what is complete
make no suggestion ready to be sent. -/
theorem NoSubmit.finish {found : List Suggestion} (h : NoSubmit found) (seen : List String)
    (limit : Nat) :
    NoSubmit (((distinctTexts seen found).take limit).map fun x =>
      { x with complete := isSubmittable x.text }) := by
  intro y hy
  obtain ⟨x, hx, rfl⟩ := List.mem_map.mp hy
  exact h x (mem_of_mem_distinctTexts (List.mem_of_mem_take hx))

theorem noSubmit_of_check_error {s : Snapshot} {line : String} {e : SubmitError}
    (h : s.check line = .error e) (limit : Nat) :
    NoSubmit (s.analyze limit line).suggestions := by
  obtain ⟨staged, hstaged, hfound⟩ := suggestions_analyze s limit line
  rw [hfound, h]
  exact hstaged.finish [] limit

theorem suggestions_of_check_ok {s : Snapshot} {line : String} {sub : Submission}
    (h : s.check line = .ok sub) {limit : Nat} (hlimit : 1 ≤ limit) :
    ∃ others, NoSubmit others ∧ (s.analyze limit line).suggestions =
      { Suggestion.ofSubmission sub with complete := true } :: others := by
  obtain ⟨staged, hstaged, hfound⟩ := suggestions_analyze s limit line
  obtain ⟨more, rfl⟩ : ∃ more, limit = more + 1 := ⟨limit - 1, by omega⟩
  refine ⟨_, hstaged.finish [(Suggestion.ofSubmission sub).text] more, ?_⟩
  have hsubmittable : isSubmittable (Suggestion.ofSubmission sub).text = true := by
    rw [(Suggestion.ofSubmission_facts sub).2.1]
    exact isSubmittable_wire h
  rw [hfound, h, ← hsubmittable]
  simp only [Except.toOption, Option.map_some, Option.toList_some, List.singleton_append,
    distinctTexts_cons, List.take_succ_cons, List.map_cons]

/-! ## Feedback and check agree -/

/-- Let the limit leave room for one suggestion. A line passes its check
exactly when the feedback on it offers something to send; this is then the
first suggestion and the only one of its kind, it is the canonical text of
the submission, and it is dangerous when the submission needs confirming.
Nothing is offered to send when the check fails. -/
theorem check_iff_submit_offered (s : Snapshot) (line : String) (limit : Nat) (h : 1 ≤ limit) :
    ((∃ sub, s.check line = .ok sub) ↔
      ∃ x ∈ (s.analyze limit line).suggestions, x.kind = .submit) ∧
    (∀ sub, s.check line = .ok sub → ∃ x others,
      (s.analyze limit line).suggestions = x :: others ∧ x.kind = .submit ∧
        x.text = sub.wire ∧ x.complete = true ∧ x.danger = sub.needsConfirmation ∧
        ∀ y ∈ others, y.kind ≠ .submit) ∧
    (∀ e, s.check line = .error e →
      ∀ x ∈ (s.analyze limit line).suggestions, x.kind ≠ .submit) := by
  have hoffered : ∀ sub, s.check line = .ok sub → ∃ x others,
      (s.analyze limit line).suggestions = x :: others ∧ x.kind = .submit ∧
        x.text = sub.wire ∧ x.complete = true ∧ x.danger = sub.needsConfirmation ∧
        ∀ y ∈ others, y.kind ≠ .submit := by
    intro sub hsub
    obtain ⟨others, hothers, hfound⟩ := suggestions_of_check_ok hsub h
    obtain ⟨hkind, htext, hdanger⟩ := Suggestion.ofSubmission_facts sub
    exact ⟨_, others, hfound, hkind, htext, rfl, hdanger, hothers⟩
  refine ⟨⟨?_, ?_⟩, hoffered, fun e he => noSubmit_of_check_error he limit⟩
  · rintro ⟨sub, hsub⟩
    obtain ⟨x, others, hfound, hkind, -⟩ := hoffered sub hsub
    exact ⟨x, hfound ▸ List.mem_cons_self, hkind⟩
  · rintro ⟨x, hx, hkind⟩
    cases hcheck : s.check line with
    | ok sub => exact ⟨sub, rfl⟩
    | error e => exact absurd hkind (noSubmit_of_check_error hcheck limit x hx)

/-- On the demonstration map: an order that has to be confirmed, offered
with room for one suggestion; and an order to a fleet in transit, which is
not offered. -/
theorem check_iff_submit_offered_demo :
    (∃ x others, (Snapshot.demo.analyze 1 "f1 af2").suggestions = x :: others ∧
      x.kind = .submit ∧ x.text = "F1AF2" ∧ x.complete = true ∧ x.danger = true ∧
      ∀ y ∈ others, y.kind ≠ .submit) ∧
    (∀ x ∈ (Snapshot.demo.analyze 10 "F4A").suggestions, x.kind ≠ .submit) := by
  have hpassed : (Snapshot.demo.check "f1 af2").toOption.map
      (fun sub => (sub.wire, sub.needsConfirmation)) = some ("F1AF2", true) := by
    decide +kernel
  have hrefused : (Snapshot.demo.check "F4A").toOption = none := by
    decide +kernel
  constructor
  · cases hcheck : Snapshot.demo.check "f1 af2" with
    | ok sub =>
      rw [hcheck] at hpassed
      injection hpassed with hpassed
      injection hpassed with hwire hconfirm
      obtain ⟨x, others, hfound, hkind, htext, hcomplete, hdanger, hothers⟩ :=
        (check_iff_submit_offered Snapshot.demo "f1 af2" 1 (by decide)).2.1 sub hcheck
      exact ⟨x, others, hfound, hkind, htext.trans hwire, hcomplete,
        hdanger.trans hconfirm, hothers⟩
    | error e =>
      rw [hcheck] at hpassed
      cases hpassed
  · cases hcheck : Snapshot.demo.check "F4A" with
    | ok sub =>
      rw [hcheck] at hrefused
      cases hrefused
    | error e => exact (check_iff_submit_offered Snapshot.demo "F4A" 10 (by decide)).2.2 e hcheck

end FleetOrders
