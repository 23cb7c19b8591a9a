/-
FleetOrders.Proofs.Readings — what a line says while it is typed, and when
it is to be sent.

* `final_command`, `final_error_eq_none_iff` — the two readings of a line
  find one command, and differ in what they make of tokens left over.
* `final_accepts_iff`, `final_accepts_iff_lineTokens` — a line is accepted
  for sending as a command when its tokens are the words of the command and
  nothing else.
-/
import FleetOrders.Proofs.Readers

namespace FleetOrders

namespace Reading

/-! ## The two readings -/

theorem live_command_eq_some_iff {line : String} {c : Command} :
    (live line).command = some c ↔ ∃ rest, order (tokenize line) = .ok (some c, rest) := by
  unfold live liveOfTokens
  split
  · rename_i d rest h
    simp [h]
  · rename_i e h
    simp [h]

/-- The two readings of a line find the same command. -/
theorem final_command (line : String) : (final line).command = (live line).command := by
  unfold final live finalOfTokens liveOfTokens
  split
  · split <;> rfl
  · rfl

/-- The reading for sending is without error exactly when the reading
while typing is, and nothing was left over. -/
theorem final_error_eq_none_iff (line : String) :
    (final line).error = none ↔ (live line).error = none ∧ (live line).consumedAll = true := by
  unfold final live finalOfTokens liveOfTokens
  split
  · split
    · rename_i h
      simp [h]
    · rename_i h
      simp [h]
  · simp

theorem final_consumedAll (line : String) :
    (final line).consumedAll = (live line).consumedAll := by
  unfold final live finalOfTokens liveOfTokens
  split
  · split
    · rename_i h
      simp [h]
    · rename_i h
      simp [h]
  · rfl

theorem live_ok_iff {line : String} {c : Command} :
    (live line).error = none ∧ (live line).consumedAll = true ∧ (live line).command = some c ↔
      ∃ rest, order (tokenize line) = .ok (some c, rest) ∧ (next rest).isEnd = true := by
  unfold live liveOfTokens
  split
  · rename_i d rest h
    simp only [h, Except.ok.injEq, Prod.mk.injEq]
    constructor
    · rintro ⟨-, hend, rfl⟩
      exact ⟨rest, ⟨rfl, rfl⟩, hend⟩
    · intro h
      obtain ⟨_, ⟨rfl, rfl⟩, hend⟩ := h
      exact ⟨trivial, hend, rfl⟩
  · rename_i e h
    simp [h]

/-! ## Accepted lines -/

/-- No word of an order is the end of the line: words that lead sound
tokens and their end marker lead the tokens alone. -/
theorem exists_left_over {ws : List Word} {words : List Token} {stop : Nat} {rest : List Token}
    (hsound : ∀ t ∈ words, t.Sound) (h : Leads ws (words ++ [Token.atEnd stop]) rest) :
    ∃ more, rest = more ++ [Token.atEnd stop] ∧ Leads ws words more := by
  induction ws generalizing words with
  | nil => exact ⟨words, (leads_nil.mp h).symm, rfl⟩
  | cons w ws ih =>
    obtain ⟨t, us, hts, ht, hws⟩ := h
    cases words with
    | nil =>
      injection hts with hts _
      have hkind := ht.kind
      rw [← hts] at hkind
      exact absurd hkind.symm w.kind_ne_endOfInput
    | cons u words =>
      injection hts with hu hmore
      subst hu hmore
      obtain ⟨more, hrest, hleads⟩ := ih (fun t ht => hsound t (List.mem_cons_of_mem u ht)) hws
      exact ⟨more, hrest, u, words, rfl, ht, hleads⟩

/-- Behind the words of the command that was read, tokens are left over at
which the command stops. The line is consumed when there are none. -/
theorem exists_left_over_of_command {line : String} {c : Command}
    (h : (live line).command = some c) :
    ∃ more, Leads c.words (lineTokens line) more ∧ (∀ t ∈ more, t.isEnd = false) ∧
      c.StopsBefore (next more).kind ∧ (live line).consumedAll = more.isEmpty := by
  obtain ⟨rest, horder⟩ := live_command_eq_some_iff.mp h
  obtain ⟨stop, htokens⟩ := exists_tokenize_eq line
  have hsound : ∀ t ∈ lineTokens line, t.Sound := fun _ => sound_of_mem_lineTokens
  obtain ⟨htaken, hstop⟩ := order_eq_ok_iff.mp horder
  obtain ⟨more, rfl, hleads⟩ := exists_left_over hsound (htokens ▸ htaken)
  have hmore : ∀ t ∈ more, t.isEnd = false := by
    obtain ⟨taken, htaken, -⟩ := hleads.exists_prefix
    exact fun t ht => (hsound t (htaken ▸ List.mem_append_right taken ht)).isEnd
  have hconsumed : (live line).consumedAll = (next (more ++ [Token.atEnd stop])).isEnd := by
    simp only [live, liveOfTokens, horder]
  refine ⟨more, hleads, hmore, ?_, ?_⟩
  · cases more with
    | nil => exact hstop
    | cons t more => exact hstop
  · rw [hconsumed]
    cases more with
    | nil => rfl
    | cons t more => exact hmore t List.mem_cons_self

/-- Words that lead sound tokens and stop at an end marker have taken all
of them. -/
theorem rest_eq_of_leads {ws : List Word} {words : List Token} {stop : Nat} {rest : List Token}
    (hsound : ∀ t ∈ words, t.Sound) (h : Leads ws (words ++ [Token.atEnd stop]) rest)
    (hend : (next rest).isEnd = true) : rest = [Token.atEnd stop] := by
  obtain ⟨more, rfl, hleads⟩ := exists_left_over hsound h
  cases more with
  | nil => rfl
  | cons t more =>
    obtain ⟨taken, rfl, -⟩ := hleads.exists_prefix
    have hnot := (hsound t (by simp)).isEnd
    rw [show (next (t :: more ++ [Token.atEnd stop])).isEnd = t.isEnd from rfl, hnot] at hend
    cases hend

/-- A line is accepted for sending as a command exactly when its tokens
are the words of the command and nothing else. -/
theorem final_accepts_iff {line : String} {c : Command} :
    (final line).error = none ∧ (final line).command = some c ↔
      (∃ stop, Leads c.words (tokenize line) [Token.atEnd stop]) ∧
        c.StopsBefore .endOfInput := by
  rw [final_error_eq_none_iff, final_command, and_assoc, live_ok_iff]
  simp only [order_eq_ok_iff]
  constructor
  · intro h
    obtain ⟨rest, ⟨hleads, hstop⟩, hend⟩ := h
    obtain ⟨stop, htokens⟩ := exists_tokenize_eq line
    have hrest := rest_eq_of_leads (fun _ => sound_of_mem_lineTokens) (htokens ▸ hleads) hend
    subst hrest
    exact ⟨⟨stop, hleads⟩, hstop⟩
  · intro h
    obtain ⟨⟨stop, hleads⟩, hstop⟩ := h
    exact ⟨_, ⟨hleads, hstop⟩, rfl⟩

/-- The words are the tokens of a line, all of them, when they lead to its
end marker. -/
theorem leads_lineTokens_iff {ws : List Word} {line : String} :
    Leads ws (lineTokens line) [] ↔ ∃ stop, Leads ws (tokenize line) [Token.atEnd stop] := by
  obtain ⟨stop, htokens⟩ := exists_tokenize_eq line
  rw [htokens]
  refine ⟨fun h => ⟨stop, h.append [Token.atEnd stop]⟩, ?_⟩
  rintro ⟨other, h⟩
  obtain ⟨taken, htaken, hwords⟩ := h.exists_prefix
  rw [(List.append_inj' htaken rfl).1]
  exact hwords

/-- A line is accepted as a command when the words of the command are its
tokens, all of them. -/
theorem final_accepts_iff_lineTokens {line : String} {c : Command} :
    (final line).error = none ∧ (final line).command = some c ↔
      Leads c.words (lineTokens line) [] ∧ c.StopsBefore .endOfInput := by
  rw [final_accepts_iff, leads_lineTokens_iff]

end Reading

end FleetOrders
