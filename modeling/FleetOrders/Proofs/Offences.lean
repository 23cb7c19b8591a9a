/-
FleetOrders.Proofs.Offences — an error points at the first token that makes a
line no order.

Errors come about in three ways: a token of another kind was expected, a number
is too large, tokens are left over behind an order that is complete. All three
are met at one place, and it is found without reading: the first token with
which the line is no beginning of an order any more.

* `OffendsAt` — up to this token the kinds are no beginning of a sentence of
  the table, or the token is a number that is too large.
* `Reading.not_offendsAt_of_leads` — words of an order do not offend.
* `Reading.Refusal.firstOffence` — what a line is refused at does, and it is the
  first that does.
* `Reading.final_error_at_first_offence` — so the error of a line is met there;
  and where nothing offends only an amount can be missing.
-/
import FleetOrders.Proofs.Staging
import FleetOrders.Proofs.Viability

namespace FleetOrders

open Text (trimmed)

/-- With the token in this place the tokens are no beginning of an order: their
kinds up to it are not the beginning of a sentence of the table, or it is a
number of more than 32 bits. -/
def OffendsAt (ts : List Token) (i : Nat) : Prop :=
  ∃ t, ts[i]? = some t ∧
    (¬ Grammar.Viable ((ts.take (i + 1)).map Token.kind) ∨
      ∃ n, t.number? = some n ∧ 4294967295 < n)

/-- The first place in which a token offends. -/
def FirstOffence (ts : List Token) (i : Nat) : Prop :=
  OffendsAt ts i ∧ ∀ j < i, ¬ OffendsAt ts j

theorem FirstOffence.unique {ts : List Token} {i j : Nat} (hi : FirstOffence ts i)
    (hj : FirstOffence ts j) : i = j := by
  have hij : i ≤ j := Nat.le_of_not_lt fun hlt => hi.2 j hlt hj.1
  have hji : j ≤ i := Nat.le_of_not_lt fun hlt => hj.2 i hlt hi.1
  exact Nat.le_antisymm hij hji

theorem OffendsAt.lt_length {ts : List Token} {i : Nat} (h : OffendsAt ts i) : i < ts.length := by
  obtain ⟨t, ht, -⟩ := h
  exact (List.getElem?_eq_some_iff.mp ht).1

/-- Tokens behind a place do not make the token in it offend. -/
theorem offendsAt_append {ts us : List Token} {i : Nat} (hi : i < ts.length) :
    OffendsAt (ts ++ us) i ↔ OffendsAt ts i := by
  unfold OffendsAt
  rw [List.getElem?_append_left hi, List.take_append_of_le_length hi]

namespace Reading

/-! ## What offends -/

/-- Words that open an order do not offend. -/
theorem not_offendsAt_of_leads {ws : List Word} {ts rest : List Token} (h : Leads ws ts rest)
    (hviable : Grammar.Viable (ws.map Word.kind)) {i : Nat} (hi : i < ws.length) :
    ¬ OffendsAt ts i := by
  obtain ⟨taken, rfl, htaken⟩ := h.exists_prefix
  have hkinds : taken.map Token.kind = ws.map Word.kind := by
    rw [htaken.map_kind, List.map_nil, List.append_nil]
  have hlength : taken.length = ws.length := htaken.length_eq
  rw [offendsAt_append (hlength ▸ hi)]
  rintro ⟨t, ht, hno | ⟨n, hn, hlarge⟩⟩
  · refine hno (hviable.of_isPrefix ?_)
    rw [List.map_take, hkinds]
    exact List.take_prefix _ _
  · have hmem : n ∈ taken.filterMap Token.number? :=
      List.mem_filterMap.mpr ⟨t, List.mem_of_getElem? ht, hn⟩
    rw [htaken.numbers, List.filterMap_nil, List.append_nil] at hmem
    obtain ⟨m, -, rfl⟩ := List.mem_map.mp hmem
    have hlt : m.toNat < 4294967296 := m.toNat_lt_size
    omega

/-- Where the tokens are the words, none offends. -/
theorem not_offendsAt_of_words {ws : List Word} {ts : List Token} (h : Leads ws ts [])
    (hviable : Grammar.Viable (ws.map Word.kind)) (i : Nat) : ¬ OffendsAt ts i := by
  intro hoffends
  have hlength : ts.length = ws.length := h.length_eq
  exact not_offendsAt_of_leads h hviable (hlength ▸ hoffends.lt_length) hoffends

/-- A number of a line that has not 32 bits is too large. -/
theorem exists_large {line : String} {t : Token} (ht : t ∈ lineTokens line)
    (hkind : t.kind = .number) (hnone : Text.word32? t.text.toList = none) :
    ∃ n, t.number? = some n ∧ 4294967295 < n := by
  obtain ⟨hne, hdigits⟩ := (sound_of_mem_lineTokens ht).digits hkind
  refine ⟨_, if_pos hkind, ?_⟩
  by_contra hle
  obtain ⟨n, hn⟩ := (Text.isSome_word32?_iff hne hdigits).mpr (by omega)
  rw [hnone] at hn
  cases hn

variable {line : String} {e : SyntaxError} {ws : List Word} {rest : List Token}

namespace Refusal

/-- A line is refused at one of its tokens, or at the end marker. -/
theorem exists_next (h : Refusal (tokenize line) e ws rest) :
    ∃ t more, rest = t :: more ∧ (tokenize line)[ws.length]? = some t := by
  obtain ⟨stop, htokens⟩ := exists_tokenize_eq line
  obtain ⟨more, rfl, -⟩ :=
    exists_left_over (fun _ => sound_of_mem_lineTokens) (htokens ▸ h.leads)
  obtain ⟨t, us, hrest⟩ : ∃ t us, more ++ [Token.atEnd stop] = t :: us := by
    cases more <;> exact ⟨_, _, rfl⟩
  obtain ⟨taken, htaken, hwords⟩ := h.leads.exists_prefix
  have hlength : taken.length = ws.length := hwords.length_eq
  refine ⟨t, us, hrest, ?_⟩
  rw [htaken, hrest, ← hlength, List.getElem?_append_right (Nat.le_refl _), Nat.sub_self]
  rfl

/-- The token at which a line is refused is the first that offends. -/
theorem firstOffence (h : Refusal (tokenize line) e ws rest) :
    FirstOffence (tokenize line) ws.length ∧ (tokenize line)[ws.length]? = some e.found := by
  obtain ⟨t, more, rfl, ht⟩ := h.exists_next
  have hfound : e.found = t := h.found
  rw [hfound]
  refine ⟨⟨⟨t, ht, ?_⟩, fun j hj => not_offendsAt_of_leads h.leads h.viable hj⟩, ht⟩
  have hkinds : ((tokenize line).take (ws.length + 1)).map Token.kind =
      ws.map Word.kind ++ [t.kind] := by
    rw [List.map_take, h.leads.map_kind, List.map_cons, List.take_append,
      List.take_of_length_le (by simp)]
    simp
  rcases h.blame with ⟨hno, -⟩ | ⟨hkind, hnone⟩
  · exact .inl (hkinds ▸ hno)
  · have hmem : t ∈ tokenize line := List.mem_of_getElem? ht
    have hkind : t.kind = .number := hkind
    have hend : t.isEnd = false := by simp [Token.isEnd, hkind]
    exact .inr (exists_large (List.mem_filter.mpr ⟨hmem, by simp [hend]⟩) hkind hnone)

/-- A line is refused no earlier than behind words that open an order. -/
theorem found_mem_of_leads (h : Refusal (tokenize line) e ws rest) {vs : List Word}
    {us : List Token} (hleads : Leads vs (tokenize line) us)
    (hviable : Grammar.Viable (vs.map Word.kind)) : e.found ∈ us := by
  obtain ⟨hfirst, hfound⟩ := h.firstOffence
  have hpast : vs.length ≤ ws.length := by
    by_contra hlt
    exact not_offendsAt_of_leads hleads hviable (by omega) hfirst.1
  obtain ⟨taken, htaken, hwords⟩ := hleads.exists_prefix
  have hlength : taken.length = vs.length := hwords.length_eq
  rw [htaken, List.getElem?_append_right (hlength ▸ hpast)] at hfound
  exact List.mem_of_getElem? hfound

end Refusal

/-- Where a line has no error, its tokens are all words of an order, and the
last is none that takes a number. -/
theorem exists_words_of_no_error (h : (final line).error = none) :
    ∃ ws : List Word, Leads ws (lineTokens line) [] ∧ Grammar.Viable (ws.map Word.kind) ∧
      ∀ k ∈ (ws.map Word.kind).getLast?, ¬ k.TakesNumber := by
  cases hcommand : (final line).command with
  | some c =>
    obtain ⟨hleads, hstop⟩ := final_accepts_iff_lineTokens.mp ⟨h, hcommand⟩
    exact ⟨c.words, hleads, Grammar.viable_words hstop, c.not_takesNumber_last⟩
  | none =>
    rw [final_command] at hcommand
    have hempty := (live_empty_iff line).mp ⟨hcommand, ((final_error_eq_none_iff line).mp h).1⟩
    rw [live_stage, Stage.ofKinds_eq_empty_iff, List.map_eq_nil_iff] at hempty
    refine ⟨[], leads_nil.mpr hempty, ?_, by simp⟩
    exact NumberDue.fleet.viable.of_isPrefix List.nil_prefix

theorem not_takesNumber_of_no_error (h : (final line).error = none) :
    ∀ t ∈ (lineTokens line).getLast?, ¬ t.kind.TakesNumber := by
  obtain ⟨ws, hleads, -, hlast⟩ := exists_words_of_no_error h
  have hkinds := hleads.map_kind
  rw [List.map_nil, List.append_nil] at hkinds
  intro t ht
  refine hlast t.kind ?_
  rw [← hkinds, List.getLast?_map, Option.mem_def.mp ht]
  rfl

/-- A mark is not the last token of a line: it has its number behind it. -/
theorem not_isMark_last {t : Token} (ht : (lineTokens line).getLast? = some t) :
    ¬ t.kind.IsMark := by
  intro hmark
  obtain ⟨before, hbefore⟩ := List.getLast?_eq_some_iff.mp ht
  have hchain := (laid_tokenize line).chain
  rw [Token.tokenize_eq, hbefore, List.append_assoc] at hchain
  have hnext := (List.isChain_cons_cons.mp hchain.right_of_append).1
  cases (hnext.mark hmark).1

/-- A line is refused at its end only where the amount of a transfer or of a
build is missing. -/
theorem Refusal.of_isEnd (h : Refusal (tokenize line) e ws rest)
    (hend : (next rest).isEnd = true) :
    e = .expected (.one .number) (Token.atEnd (trimmed line).utf8ByteSize) ∧
      ∃ t ∈ (lineTokens line).getLast?, t.kind = .transfer ∨ t.kind = .build := by
  obtain ⟨herror, k, hk, htakes⟩ := h.atEnd hend
  have hleads := h.leads
  rw [Token.tokenize_eq] at hleads
  obtain rfl := rest_eq_of_leads (fun _ => sound_of_mem_lineTokens) hleads hend
  have hkinds := (leads_lineTokens_iff.mpr ⟨_, Token.tokenize_eq line ▸ hleads⟩).map_kind
  rw [List.map_nil, List.append_nil] at hkinds
  rw [← hkinds, List.getLast?_map] at hk
  obtain ⟨t, ht, rfl⟩ := Option.map_eq_some_iff.mp hk
  refine ⟨herror, t, ht, ?_⟩
  have hmark := not_isMark_last ht
  rcases htakes with hfleet | hworld | hbuild | htransfer
  · exact absurd (.inl hfleet) hmark
  · exact absurd (.inr hworld) hmark
  · exact .inr hbuild
  · exact .inl htransfer

/-! ## The error of a line -/

/-- Where a token of a line offends, the line has an error. -/
theorem exists_error_of_offendsAt {i : Nat} (h : OffendsAt (lineTokens line) i) :
    ∃ e, (final line).error = some e := by
  cases herror : (final line).error with
  | some e => exact ⟨e, rfl⟩
  | none =>
    obtain ⟨ws, hleads, hviable, -⟩ := exists_words_of_no_error herror
    exact absurd h (not_offendsAt_of_words hleads hviable i)

theorem offendsAt_tokenize_iff {i : Nat} (hi : i < (lineTokens line).length) :
    OffendsAt (tokenize line) i ↔ OffendsAt (lineTokens line) i := by
  rw [Token.tokenize_eq]
  exact offendsAt_append hi

/-- Where a token is the first of a line that offends, the error is met at
it. -/
theorem exists_error_of_firstOffence {i : Nat} (h : FirstOffence (lineTokens line) i) :
    ∃ e, (lineTokens line)[i]? = some e.found ∧ (final line).error = some e := by
  have hi := h.1.lt_length
  have hfirst : FirstOffence (tokenize line) i :=
    ⟨(offendsAt_tokenize_iff hi).mpr h.1, fun j hj hoffends =>
      h.2 j hj ((offendsAt_tokenize_iff (hj.trans hi)).mp hoffends)⟩
  obtain ⟨e, herror⟩ := exists_error_of_offendsAt h.1
  obtain ⟨ws, rest, hrefusal⟩ := exists_refusal herror
  obtain ⟨hrefused, hfound⟩ := hrefusal.firstOffence
  obtain rfl := hfirst.unique hrefused
  rw [Token.tokenize_eq, List.getElem?_append_left hi] at hfound
  exact ⟨e, hfound, herror⟩

/-- Where no token of a line offends, it is refused at its end. -/
theorem Refusal.isEnd_of_not_offends (h : Refusal (tokenize line) e ws rest)
    (hnone : ∀ i, ¬ OffendsAt (lineTokens line) i) : (next rest).isEnd = true := by
  obtain ⟨hfirst, -⟩ := h.firstOffence
  obtain ⟨t, more, rfl, ht⟩ := h.exists_next
  have hpast : (lineTokens line).length ≤ ws.length := by
    by_contra hlt
    exact hnone _ ((offendsAt_tokenize_iff (by omega)).mp hfirst.1)
  rw [Token.tokenize_eq, List.getElem?_append_right hpast] at ht
  obtain rfl := List.mem_singleton.mp (List.mem_of_getElem? ht)
  rfl

/-- The error of a line that is to be sent is met at the first token that
offends: with it the line is no beginning of an order, or it is a number that is
too large. Where no token offends, there is an error only if the last token is
the sign of a transfer or of a build, and it is that a number is missing at the
end. -/
theorem final_error_at_first_offence (line : String) :
    (∀ i, FirstOffence (lineTokens line) i →
      ∃ t e, (lineTokens line)[i]? = some t ∧ (final line).error = some e ∧ e.found = t ∧
        e.offset = t.offset) ∧
    ((∀ i, ¬ OffendsAt (lineTokens line) i) →
      ((∃ t ∈ (lineTokens line).getLast?, t.kind = .transfer ∨ t.kind = .build) →
        (final line).error =
          some (.expected (.one .number) (Token.atEnd (trimmed line).utf8ByteSize))) ∧
      ((∀ t ∈ (lineTokens line).getLast?, t.kind ≠ .transfer ∧ t.kind ≠ .build) →
        (final line).error = none)) := by
  constructor
  · intro i hfirst
    obtain ⟨e, ht, herror⟩ := exists_error_of_firstOffence hfirst
    exact ⟨e.found, e, ht, herror, rfl, rfl⟩
  · intro hnone
    cases herror : (final line).error with
    | none =>
      refine ⟨fun ⟨t, ht, hkind⟩ => ?_, fun _ => rfl⟩
      refine absurd ?_ (not_takesNumber_of_no_error herror t ht)
      rcases hkind with hkind | hkind <;> rw [hkind] <;> decide
    | some e =>
      obtain ⟨ws, rest, hrefusal⟩ := exists_refusal herror
      obtain ⟨rfl, t, ht, hkind⟩ := hrefusal.of_isEnd (hrefusal.isEnd_of_not_offends hnone)
      refine ⟨fun _ => rfl, fun hno => ?_⟩
      exact (hkind.elim (hno t ht).1 (hno t ht).2).elim

/-- An amount that is too large, an amount that is missing, and an ambush. -/
theorem final_error_at_first_offence_samples :
    (∃ e, (final "f5t4294967296x").error = some e ∧ e.found = ⟨.number, "4294967296", 3⟩) ∧
    (final "f5 t").error = some (.expected (.one .number) (Token.atEnd 4)) ∧
    (final "f5a").error = none := by
  have hlarge : lineTokens "f5t4294967296x" =
      [⟨.fleetMark, "F", 0⟩, ⟨.number, "5", 1⟩, ⟨.transfer, "T", 2⟩, ⟨.number, "4294967296", 3⟩,
        ⟨.unknown, "X", 13⟩] := by decide +kernel
  have hmissing : lineTokens "f5 t" =
      [⟨.fleetMark, "F", 0⟩, ⟨.number, "5", 1⟩, ⟨.transfer, "T", 3⟩] := by decide +kernel
  have hambush : lineTokens "f5a" =
      [⟨.fleetMark, "F", 0⟩, ⟨.number, "5", 1⟩, ⟨.attack, "A", 2⟩] := by decide +kernel
  have hfive : Text.word32? "5".toList = some 5 := by decide
  have htransfer := (NumberDue.transferAmount ⟨5⟩).viable
  have hends : (Command.ambush ⟨5⟩).StopsBefore .endOfInput :=
    show ¬ OpensTarget .endOfInput by decide
  have hattack := Grammar.viable_words hends
  refine ⟨?_, ?_, ?_⟩
  · have hopening : Leads ((FleetId.mk 5).words ++ [.sign .transfer])
        (lineTokens "f5t4294967296x") ((lineTokens "f5t4294967296x").drop 3) := by
      rw [hlarge]
      exact ⟨_, _, rfl, rfl, _, _, rfl, ⟨rfl, hfive⟩, _, _, rfl, rfl, rfl⟩
    have hoffends : OffendsAt (lineTokens "f5t4294967296x") 3 := by
      rw [hlarge]
      exact ⟨_, rfl, .inr ⟨4294967296, by decide, by decide⟩⟩
    obtain ⟨t, e, ht, herror, rfl, -⟩ := (final_error_at_first_offence "f5t4294967296x").1 3
      ⟨hoffends, fun j hj => not_offendsAt_of_leads hopening htransfer hj⟩
    rw [hlarge] at ht
    exact ⟨e, herror, (Option.some.inj ht).symm⟩
  · have hwords : Leads ((FleetId.mk 5).words ++ [.sign .transfer]) (lineTokens "f5 t") [] := by
      rw [hmissing]
      exact ⟨_, _, rfl, rfl, _, _, rfl, ⟨rfl, hfive⟩, _, _, rfl, rfl, rfl⟩
    have hsize : (trimmed "f5 t").utf8ByteSize = 4 := by decide +kernel
    rw [← hsize]
    exact ((final_error_at_first_offence "f5 t").2 (not_offendsAt_of_words hwords htransfer)).1
      ⟨⟨.transfer, "T", 3⟩, by rw [hmissing]; rfl, .inl rfl⟩
  · have hwords : Leads (Command.ambush ⟨5⟩).words (lineTokens "f5a") [] := by
      rw [hambush]
      exact ⟨_, _, rfl, rfl, _, _, rfl, ⟨rfl, hfive⟩, _, _, rfl, rfl, rfl⟩
    refine ((final_error_at_first_offence "f5a").2 (not_offendsAt_of_words hwords hattack)).2 ?_
    rw [hambush]
    intro t ht
    obtain rfl := Option.some.inj ht
    decide

end Reading

end FleetOrders
