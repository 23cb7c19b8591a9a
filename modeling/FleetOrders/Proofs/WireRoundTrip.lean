/-
FleetOrders.Proofs.WireRoundTrip — a command survives being written and
read again.

The wire text of a well-formed command is read, for sending, as that
command (`final_wire`). Every command that a line gives is well-formed,
whether the line is finished or not (`wellFormed_of_live_command`). So the
wire text of what was read always reads as the same again.
-/
import FleetOrders.Proofs.Readings
import FleetOrders.Proofs.Spellings

namespace FleetOrders

/-! ## Written, then read -/

theorem Command.WellFormed.stopsBefore_end {c : Command} (h : c.WellFormed) :
    c.StopsBefore .endOfInput := by
  have hopens : ¬ Reading.OpensTarget .endOfInput := by decide
  cases c with
  | move f path => exact ⟨h, TokenKind.noConfusion⟩
  | ambush f => exact hopens
  | partialTransfer f n => exact hopens
  | partialBuild w n => exact hopens
  | partialFleet f => rfl
  | partialWorld w => rfl
  | partialJoin => exact TokenKind.noConfusion
  | _ => trivial

namespace Reading

/-- A well-formed command is read back from its wire text. -/
theorem final_wire {c : Command} {wire : String} (hwire : c.wire? = some wire)
    (h : c.WellFormed) :
    (final wire).error = none ∧ (final wire).consumedAll = true ∧
      (final wire).command = some c := by
  have hleads := c.leads_tokenize_wire hwire h
  obtain ⟨herror, hcommand⟩ := final_accepts_iff.mpr ⟨hleads, h.stopsBefore_end⟩
  refine ⟨herror, ?_, hcommand⟩
  rw [final_consumedAll]
  exact ((final_error_eq_none_iff wire).mp herror).2

/-! ## Read, then written -/

/-- The free text of a line is never empty and has no blanks around it. -/
theorem free_of_fits {line text : String} {t : Token} (ht : t ∈ tokenize line)
    (hfits : (Word.free text).Fits t) : text ≠ "" ∧ Text.trimmed text = text := by
  obtain ⟨stop, htokens⟩ := exists_tokenize_eq line
  obtain ⟨hkind, rfl⟩ := hfits
  rw [htokens] at ht
  rcases List.mem_append.mp ht with ht | ht
  · exact (sound_of_mem_lineTokens ht).free hkind
  · rw [List.mem_singleton.mp ht] at hkind
    cases hkind

/-- Whatever command a line gives, it is well-formed. -/
theorem wellFormed_of_live_command {line : String} {c : Command}
    (h : (live line).command = some c) : c.WellFormed := by
  obtain ⟨rest, horder⟩ := live_command_eq_some_iff.mp h
  obtain ⟨hleads, hstop⟩ := order_eq_ok_iff.mp horder
  cases c with
  | move f path => exact hstop.1
  | join text =>
    obtain ⟨t, ht, hfits⟩ := hleads.exists_fits (.free text) (by simp [Command.words])
    exact free_of_fits ht hfits
  | _ => trivial

/-! ## Round trip -/

/-- A well-formed complete command is what its wire text is read as; and a
command that was read is partial or well-formed, so its wire text, if it
has one, is read as the command again. -/
theorem wire_round_trip :
    (∀ c : Command, c.isComplete = true → c.WellFormed →
      ∃ wire, c.wire? = some wire ∧ (final wire).error = none ∧
        (final wire).consumedAll = true ∧ (final wire).command = some c) ∧
    (∀ line c, (live line).command = some c ∨ (final line).command = some c →
      c.isPartial = true ∨ c.WellFormed) ∧
    (∀ line c wire, (live line).command = some c ∨ (final line).command = some c →
      c.wire? = some wire →
      (final wire).error = none ∧ (final wire).consumedAll = true ∧
        (final wire).command = some c) := by
  have hformed : ∀ {line c}, (live line).command = some c ∨ (final line).command = some c →
      c.WellFormed := by
    intro line c h
    rw [final_command, or_self] at h
    exact wellFormed_of_live_command h
  refine ⟨fun c hcomplete h => ?_, fun line c h => .inr (hformed h), fun line c wire h hwire => ?_⟩
  · rw [← c.isSome_wire?] at hcomplete
    obtain ⟨wire, hwire⟩ := Option.isSome_iff_exists.mp hcomplete
    exact ⟨wire, hwire, final_wire hwire h⟩
  · exact final_wire hwire (hformed h)

/-- A path of two hops; a line with leading zeros and blanks; and an
ambush that was read from a line with more on it. -/
theorem wire_round_trip_samples :
    (∃ wire, (Command.move ⟨5⟩ [⟨1⟩, ⟨10⟩]).wire? = some wire ∧ (final wire).error = none ∧
      (final wire).consumedAll = true ∧
      (final wire).command = some (.move ⟨5⟩ [⟨1⟩, ⟨10⟩])) ∧
    ((Command.join "Merchant Bob").isPartial = true ∨ (Command.join "Merchant Bob").WellFormed) ∧
    ((final "F5A").error = none ∧ (final "F5A").consumedAll = true ∧
      (final "F5A").command = some (.ambush ⟨5⟩)) := by
  have hjoin : (live " join  Merchant Bob ").command = some (.join "Merchant Bob") := by
    decide +kernel
  have hambush : (live "f05 ax").command = some (.ambush ⟨5⟩) := by decide +kernel
  have hwire : (Command.ambush ⟨5⟩).wire? = some "F5A" := by decide +kernel
  refine ⟨wire_round_trip.1 _ rfl (List.cons_ne_nil _ _), ?_, ?_⟩
  · exact wire_round_trip.2.1 " join  Merchant Bob " _ (.inl hjoin)
  · exact wire_round_trip.2.2 "f05 ax" _ _ (.inl hambush) hwire

end Reading

end FleetOrders
