/-
FleetOrders.Proofs.Staging — the stage of a line fits what was read from
it.

The stage is found by counting tokens and looking at the first and the
third; the command is found by reading them one after another. The two
agree:

* `Command.stage` — the stage at which a command leaves its line.
* `Reading.later_of_order_error` — where the first token starts an order,
  reading never fails at it.

`Reading.stage_fits` puts them together.
-/
import FleetOrders.Proofs.Failures
import FleetOrders.Proofs.Layout
import FleetOrders.Proofs.Readings

namespace FleetOrders

/-- The stage of a line from which the command was read. Tokens that are
left over count: after an amount they are taken for a target, and after
`A`, too. -/
def Command.stage (consumedAll : Bool) : Command → Stage
  | .move .. => .fleet .movePath
  | .partialFleet _ => .fleet .fleetId
  | .transfer .. => .fleet .transferTarget
  | .partialTransfer .. => .fleet (if consumedAll then .transferAmount else .transferTarget)
  | .ambush _ => .fleet (if consumedAll then .attackType else .attackTarget)
  | .fireAtWorld .. | .fireAtFleet .. => .fleet .attackTarget
  | .partialWorld _ => .world .worldId
  | .build .. => .world .buildTarget
  | .partialBuild .. => .world (if consumedAll then .buildAmount else .buildTarget)
  | .join _ | .partialJoin => .join
  | .turn => .turn

/-! ## The stage of the words of a command -/

/-- The kinds of the words of a command, with those of the tokens left
over, have the stage of the command. -/
theorem Stage.ofKinds_words {c : Command} {more : List TokenKind}
    (hstop : c.StopsBefore (more.headD .endOfInput)) (hend : .endOfInput ∉ more) :
    ofKinds (c.words.map Word.kind ++ more) = c.stage more.isEmpty := by
  -- a bare fleet or world stops at the end of the line only
  have hlast : more.headD .endOfInput = .endOfInput → more = [] := by
    cases more with
    | nil => exact fun _ => rfl
    | cons k more =>
      rintro rfl
      exact absurd List.mem_cons_self hend
  cases c with
  | move f path =>
    obtain ⟨w, path, rfl⟩ := List.exists_cons_of_ne_nil hstop.1
    rfl
  | partialFleet f =>
    rw [hlast hstop]
    rfl
  | partialWorld w =>
    rw [hlast hstop]
    rfl
  | transfer f n d => cases d <;> rfl
  | build w n d => cases d <;> rfl
  | fireAtWorld f r => cases r <;> rfl
  | ambush f => cases more <;> rfl
  | partialTransfer f n => cases more <;> rfl
  | partialBuild w n => cases more <;> rfl
  | fireAtFleet | join | turn | partialJoin => rfl

/-! ## Where errors are met -/

namespace Reading

/-- Where the first token starts no order, reading fails at it. -/
theorem order_of_not_start {t : Token} (ts : List Token) (hkind : t.kind ∉ orderStarts)
    (hend : t.isEnd = false) : order (t :: ts) = .error (.expected (.anyOf orderStarts) t) := by
  obtain ⟨kind, text, offset⟩ := t
  cases kind with
  | fleetMark | worldMark | join | turn => simp [orderStarts] at hkind
  | endOfInput => cases hend
  | _ => rfl

theorem NumberDue.exists_cons {ws : List Word} (h : NumberDue ws) : ∃ w vs, ws = w :: vs := by
  cases h <;> exact ⟨_, _, rfl⟩

/-- What comes behind words comes later than the first token, or is an end
of the line. -/
theorem later_of_leads {w : Word} {ws : List Word} {t : Token} {ts rest : List Token}
    (h : Leads (w :: ws) (t :: ts) rest) : next rest ∈ ts ∨ (next rest).isEnd = true := by
  obtain ⟨_, _, htokens, -, hws⟩ := h
  obtain ⟨taken, htaken, -⟩ := hws.exists_prefix
  obtain ⟨-, rfl⟩ := List.cons.inj htokens
  cases rest with
  | nil => exact .inr rfl
  | cons u us => exact .inl (htaken ▸ List.mem_append_right taken List.mem_cons_self)

/-- Where the first token starts an order, reading fails at a later one, or
at an end of the line. -/
theorem later_of_order_error {t : Token} {ts : List Token} {e : SyntaxError}
    (hkind : t.kind ∈ orderStarts) (h : order (t :: ts) = .error e) :
    e.found ∈ ts ∨ e.found.isEnd = true := by
  cases fails_of_order_error h with
  | number hdue hno =>
    obtain ⟨w, vs, rfl⟩ := hdue.exists_cons
    obtain ⟨rest, hleads, hnumber⟩ := hno
    rw [found_of_number_error hnumber]
    exact later_of_leads hleads
  | start hno => exact absurd hkind hno
  | fleetAction hleads => exact later_of_leads hleads
  | worldAction hleads => exact later_of_leads hleads

end Reading

/-! ## Stage and reading -/

theorem Stage.ofKinds_eq_unknown_iff {kinds : List TokenKind} :
    ofKinds kinds = .unknown ↔ ∃ k more, kinds = k :: more ∧ k ∉ Reading.orderStarts := by
  cases kinds with
  | nil => simp [ofKinds]
  | cons k more => cases k <;> simp [ofKinds, Reading.orderStarts]

theorem Stage.ofKinds_eq_empty_iff {kinds : List TokenKind} :
    ofKinds kinds = .empty ↔ kinds = [] := by
  cases kinds with
  | nil => simp [ofKinds]
  | cons k more => cases k <;> simp [ofKinds]

namespace Reading

theorem live_stage (line : String) :
    (live line).stage = .ofKinds ((lineTokens line).map Token.kind) := by
  unfold live liveOfTokens
  split <;> rfl

theorem live_tokens (line : String) : (live line).tokens = tokenize line := by
  unfold live liveOfTokens
  split <;> rfl

theorem live_error_eq_some_iff {line : String} {e : SyntaxError} :
    (live line).error = some e ↔ order (tokenize line) = .error e := by
  unfold live liveOfTokens
  split
  · rename_i h
    simp [h]
  · rename_i h
    simp [h]

/-- The stage of a line, from the command and what is left over. -/
theorem stage_of_command {line : String} {c : Command} (h : (live line).command = some c) :
    (live line).stage = c.stage (live line).consumedAll := by
  obtain ⟨more, hleads, hmore, hstop, hconsumed⟩ := exists_left_over_of_command h
  have hempty : more.isEmpty = (more.map Token.kind).isEmpty := List.isEmpty_map.symm
  rw [live_stage, hleads.map_kind, hconsumed, hempty]
  refine Stage.ofKinds_words ?_ ?_
  · cases more with
    | nil => exact hstop
    | cons t more => exact hstop
  · intro hmem
    obtain ⟨t, ht, hkind⟩ := List.mem_map.mp hmem
    have hend := hmore t ht
    rw [Token.isEnd, hkind] at hend
    cases hend

/-- Nothing was read and nothing is wrong where there are no tokens. -/
theorem live_empty_iff (line : String) :
    (live line).command = none ∧ (live line).error = none ↔ (live line).stage = .empty := by
  rw [live_stage, Stage.ofKinds_eq_empty_iff, List.map_eq_nil_iff]
  obtain ⟨stop, htokens⟩ := exists_tokenize_eq line
  have hnothing : (live line).command = none ∧ (live line).error = none ↔
      ∃ rest, order (tokenize line) = .ok (none, rest) := by
    unfold live liveOfTokens
    split
    · rename_i h
      simp [h]
    · rename_i h
      simp [h]
  simp only [hnothing, order_eq_none_iff, exists_and_left, exists_eq', and_true]
  rw [htokens]
  cases hline : lineTokens line with
  | nil => simp [next, Token.atEnd]
  | cons t rest =>
    have hend := (sound_of_mem_lineTokens (hline ▸ List.mem_cons_self)).isEnd
    simpa [next, Token.isEnd] using hend

/-- The stage is unknown when reading failed at the first token. -/
theorem stage_eq_unknown_iff (line : String) :
    (live line).stage = .unknown ↔
      ∃ e, (live line).error = some e ∧ (live line).tokens.head? = some e.found := by
  rw [live_stage, Stage.ofKinds_eq_unknown_iff, live_tokens]
  simp only [live_error_eq_some_iff]
  obtain ⟨stop, htokens⟩ := exists_tokenize_eq line
  constructor
  · intro h
    obtain ⟨k, more, hkinds, hkind⟩ := h
    obtain ⟨t, rest, hline, rfl, -⟩ := List.map_eq_cons_iff.mp hkinds
    have hend := (sound_of_mem_lineTokens (hline ▸ List.mem_cons_self)).isEnd
    rw [htokens, hline]
    exact ⟨_, order_of_not_start _ hkind hend, rfl⟩
  · intro h
    obtain ⟨e, herror, hhead⟩ := h
    cases hline : lineTokens line with
    | nil =>
      rw [htokens, hline] at herror
      cases herror
    | cons t rest =>
      rw [hline, List.cons_append] at htokens
      refine ⟨t.kind, rest.map Token.kind, by rw [List.map_cons], fun hkind => ?_⟩
      have hfound : t = e.found := by
        rw [htokens] at hhead
        exact Option.some.inj hhead
      rw [htokens] at herror
      rcases later_of_order_error hkind herror with hmem | hend
      · exact not_mem_of_tokenize htokens (hfound ▸ hmem)
      · have hnot := (sound_of_mem_lineTokens (hline ▸ List.mem_cons_self)).isEnd
        rw [hfound, hend] at hnot
        cases hnot

/-- What is found by counting tokens is what is found by reading them. The
stage is empty where nothing was read without error; where a command was
read, it is the stage of the command; and it is unknown where reading
failed at the first token. -/
theorem stage_fits (line : String) :
    ((live line).command = none ∧ (live line).error = none ↔ (live line).stage = .empty) ∧
    (∀ c, (live line).command = some c →
      (live line).stage = c.stage (live line).consumedAll) ∧
    ((live line).stage = .unknown ↔
      ∃ e, (live line).error = some e ∧ (live line).tokens.head? = some e.found) :=
  ⟨live_empty_iff line, fun _ => stage_of_command, stage_eq_unknown_iff line⟩

/-- A transfer whose amount is not the last token of its line. -/
theorem stage_fits_left_over : (live "f5 t10 x").stage = .fleet .transferTarget :=
  (stage_fits "f5 t10 x").2.1 (.partialTransfer ⟨5⟩ 10) (by decide +kernel)

end Reading

end FleetOrders
