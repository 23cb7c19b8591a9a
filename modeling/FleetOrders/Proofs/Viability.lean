/-
FleetOrders.Proofs.Viability — how far a row of tokens can still become an
order.

The grammar table says which rows of token kinds are orders. A row is viable
as long as some order starts with it. Reading goes on exactly so far: it is
refused behind words whose kinds are viable, by a token with which they are
not, or by a number that is too large.

* `Grammar.Viable` — the kinds are the beginning of a sentence of the table.
* `Grammar.exists_command_of_viable` — the beginning of the words of a
  complete command, that is.
* `Grammar.not_viable_of_stops` — where a command stops, no sentence goes on.
* `Grammar.Viable.isChain` — in a viable row a number follows each sign that
  takes one.
* `Reading.exists_refusal` — every error of a line is a refusal in this sense.
-/
import FleetOrders.Proofs.Failures
import FleetOrders.Proofs.Sentences
import FleetOrders.Proofs.Spellings
import Mathlib.Data.List.Chain

namespace FleetOrders

open Text (word32?)

/-! ## Words as tokens -/

/-- A token that is the word. -/
def Word.token : Word → Token
  | .sign s => ⟨s.kind, String.ofList s.letters, 0⟩
  | .number n => ⟨.number, Text.decimal n.toNat, 0⟩
  | .free text => ⟨.joinText, text, 0⟩

theorem Word.fits_token (w : Word) : w.Fits w.token := by
  cases w with
  | sign s => rfl
  | number n =>
    refine ⟨rfl, ?_⟩
    rw [token, Text.decimal, String.toList_ofList]
    exact Text.word32?_digits n
  | free text => exact ⟨rfl, rfl⟩

theorem leads_map_token (ws : List Word) (rest : List Token) :
    Leads ws (ws.map Word.token ++ rest) rest := by
  induction ws with
  | nil => rfl
  | cons w ws ih => exact ⟨w.token, _, rfl, w.fits_token, ih⟩

/-- A sign or word of this kind has a number behind it, wherever it stands in
an order. -/
def TokenKind.TakesNumber (kind : TokenKind) : Prop :=
  kind = .fleetMark ∨ kind = .worldMark ∨ kind = .build ∨ kind = .transfer

instance (kind : TokenKind) : Decidable kind.TakesNumber :=
  inferInstanceAs (Decidable (_ ∨ _))

/-- What stands behind a sign that takes a number is a number. -/
def NumberBehind (k l : TokenKind) : Prop :=
  k.TakesNumber → l = .number

namespace Apart

theorem isChain {ws : List Word} (h : Apart ws) : (ws.map Word.kind).IsChain NumberBehind := by
  induction h with
  | nil => exact List.isChain_nil
  | @lone s ws hs _ ih =>
    refine List.isChain_cons.mpr ⟨fun l _ htakes => ?_, ih⟩
    rcases hs with rfl | rfl | rfl <;> exact absurd htakes (by decide)
  | @numbered s ws _ n _ ih =>
    have hnumber : ∀ l ∈ (ws.map Word.kind).head?, NumberBehind .number l :=
      fun l _ htakes => absurd htakes (by decide)
    exact List.isChain_cons_cons.mpr ⟨fun _ => rfl, List.isChain_cons.mpr ⟨hnumber, ih⟩⟩

theorem not_takesNumber_last {ws : List Word} (h : Apart ws) :
    ∀ k ∈ (ws.map Word.kind).getLast?, ¬ k.TakesNumber := by
  induction h with
  | nil => simp
  | @lone s ws hs _ ih =>
    intro k hk
    cases ws with
    | nil =>
      obtain rfl : s.kind = k := Option.some.inj hk
      rcases hs with rfl | rfl | rfl <;> decide
    | cons w ws => exact ih k hk
  | @numbered s ws _ n _ ih =>
    intro k hk
    cases ws with
    | nil =>
      obtain rfl : TokenKind.number = k := Option.some.inj hk
      decide
    | cons w ws => exact ih k hk

end Apart

namespace Command

/-- The two orders whose words do not stay apart, and all others. -/
theorem words_cases (c : Command) :
    (∃ text, c = .join text) ∨ c = .partialJoin ∨ c = .turn ∨ Apart c.words := by
  cases c with
  | join text => exact .inl ⟨text, rfl⟩
  | partialJoin => exact .inr (.inl rfl)
  | turn => exact .inr (.inr (.inl rfl))
  | _ =>
    refine .inr (.inr (.inr (apart_words ?_ ?_ ?_)))
    · intro text h
      cases h
    · intro h
      cases h
    · intro h
      cases h

theorem isChain_words (c : Command) : (c.words.map Word.kind).IsChain NumberBehind := by
  rcases c.words_cases with ⟨text, rfl⟩ | rfl | rfl | hapart
  · refine List.isChain_cons_cons.mpr ⟨fun htakes => ?_, List.isChain_singleton _⟩
    exact absurd htakes (by decide)
  · exact List.isChain_singleton _
  · exact List.isChain_singleton _
  · exact hapart.isChain

theorem not_takesNumber_last (c : Command) :
    ∀ k ∈ (c.words.map Word.kind).getLast?, ¬ k.TakesNumber := by
  rcases c.words_cases with ⟨text, rfl⟩ | rfl | rfl | hapart
  · intro k hk
    obtain rfl : TokenKind.joinText = k := Option.some.inj hk
    decide
  · intro k hk
    obtain rfl : TokenKind.join = k := Option.some.inj hk
    decide
  · intro k hk
    obtain rfl : TokenKind.turn = k := Option.some.inj hk
    decide
  · exact hapart.not_takesNumber_last

/-- A complete command to a fleet or a world has the sign of its action
behind the number. -/
theorem action_cases {c : Command} (hcomplete : c.isComplete = true)
    (hstop : c.StopsBefore .endOfInput) :
    (∃ (f : FleetId) (s : Sign) (ws : List Word),
      c.words = f.words ++ .sign s :: ws ∧ s.kind ∈ Reading.fleetActions) ∨
    (∃ (w : WorldId) (ws : List Word), c.words = w.words ++ .sign .build :: ws) ∨
    (∃ text, c = .join text) ∨ c = .turn := by
  cases c with
  | move f path =>
    obtain ⟨w, path, rfl⟩ := List.exists_cons_of_ne_nil hstop.1
    exact .inl ⟨f, .worldMark, _, rfl, by decide⟩
  | transfer f => exact .inl ⟨f, .transfer, _, rfl, by decide⟩
  | fireAtWorld f => exact .inl ⟨f, .attack, _, rfl, by decide⟩
  | fireAtFleet f => exact .inl ⟨f, .attack, _, rfl, by decide⟩
  | ambush f => exact .inl ⟨f, .attack, _, rfl, by decide⟩
  | build w => exact .inr (.inl ⟨w, _, rfl⟩)
  | join text => exact .inr (.inr (.inl ⟨text, rfl⟩))
  | turn => exact .inr (.inr (.inr rfl))
  | _ => cases hcomplete

end Command

namespace Grammar

/-! ## Viable rows -/

/-- The kinds of token are the beginning of a sentence of the table. -/
def Viable (ks : List TokenKind) : Prop :=
  ∃ p ∈ productions, ∃ more, p.IsSentence (ks ++ more)

theorem Viable.of_isPrefix {ks ls : List TokenKind} (h : Viable ls) (hpre : ks <+: ls) :
    Viable ks := by
  obtain ⟨p, hp, more, hsentence⟩ := h
  obtain ⟨mid, rfl⟩ := hpre
  rw [List.append_assoc] at hsentence
  exact ⟨p, hp, mid ++ more, hsentence⟩

/-- The words that a complete command starts with are viable. -/
theorem viable_of_isPrefix {c : Command} {ws : List Word} (hpre : ws <+: c.words)
    (hcomplete : c.isComplete = true) (hstop : c.StopsBefore .endOfInput) :
    Viable (ws.map Word.kind) := by
  obtain ⟨p, hp, hsentence⟩ := sentence_of_command hcomplete hstop
  rw [← List.append_nil (c.words.map Word.kind)] at hsentence
  exact Viable.of_isPrefix ⟨p, (mem_of_production? hp).1, [], hsentence⟩ (hpre.map Word.kind)

/-- Kinds that are viable are the beginning of the words of a complete
command. -/
theorem exists_command_of_viable {ks : List TokenKind} (h : Viable ks) :
    ∃ c : Command, c.isComplete = true ∧ c.StopsBefore .endOfInput ∧
      ks <+: c.words.map Word.kind := by
  obtain ⟨p, hp, more, hsentence⟩ := h
  rw [← map_kind_zeros (ks ++ more)] at hsentence
  obtain ⟨c, hkind, hstop, hleads⟩ := exists_command_of_sentence hp (fitting_zeros _) hsentence
  refine ⟨c, ?_, hstop, more, ?_⟩
  · have hfound : (productions.find? fun q => q.kind == c.kind).isSome = true :=
      List.find?_isSome.mpr ⟨p, hp, by simp [hkind]⟩
    rw [← isSome_production?]
    exact hfound
  · have hkinds := hleads.map_kind
    rw [map_kind_zeros, List.map_nil, List.append_nil] at hkinds
    exact hkinds

/-- Whatever a command stops before, no sentence goes on with: tokens of such
a sentence would be read as two commands. -/
theorem not_viable_of_stops {c : Command} {k : TokenKind} (hstop : c.StopsBefore k) :
    ¬ Viable (c.words.map Word.kind ++ [k]) := by
  rintro ⟨p, hp, more, hsentence⟩
  let rest := zeros (k :: more)
  let ts := c.words.map Word.token ++ rest
  have hleads : Leads c.words ts rest := leads_map_token c.words rest
  have hkinds : ts.map Token.kind = c.words.map Word.kind ++ [k] ++ more := by
    rw [hleads.map_kind, map_kind_zeros, List.append_assoc]
    rfl
  have hfit : Fitting ts := by
    intro t ht hkind
    rcases List.mem_append.mp ht with ht | ht
    · obtain ⟨w, -, rfl⟩ := List.mem_map.mp ht
      cases w with
      | sign s => exact absurd hkind s.kind_ne_number
      | number n => exact ⟨n, (Word.number n).fits_token.2⟩
      | free text => cases hkind
    · exact fitting_zeros _ t ht hkind
  obtain ⟨d, -, hdstop, hdleads⟩ := exists_command_of_sentence hp hfit (hkinds ▸ hsentence)
  have hreadc : Reading.order ts = .ok (some c, rest) :=
    Reading.order_eq_ok_iff.mpr ⟨hleads, hstop⟩
  have hreadd : Reading.order ts = .ok (some d, []) :=
    Reading.order_eq_ok_iff.mpr ⟨hdleads, hdstop⟩
  rw [hreadc] at hreadd
  obtain ⟨-, hnil⟩ := Reading.ok_pair_inj hreadd
  exact List.cons_ne_nil _ _ hnil

/-- The words of a command that was read are viable, though it may be the
beginning of an order only. -/
theorem viable_words {c : Command} {k : TokenKind} (hstop : c.StopsBefore k) :
    Viable (c.words.map Word.kind) := by
  have hopens : ¬ Reading.OpensTarget .endOfInput := by decide
  cases c with
  | move f path => exact viable_of_isPrefix List.prefix_rfl rfl ⟨hstop.1, by decide⟩
  | ambush f => exact viable_of_isPrefix List.prefix_rfl rfl hopens
  | partialFleet f =>
    exact viable_of_isPrefix (c := .ambush f) ⟨[.sign .attack], rfl⟩ rfl hopens
  | partialWorld w =>
    exact viable_of_isPrefix (c := .build w 0 .industry)
      ⟨[.sign .build, .number 0, .sign .industry], rfl⟩ rfl trivial
  | partialTransfer f n =>
    exact viable_of_isPrefix (c := .transfer f n .industry) ⟨[.sign .industry], rfl⟩ rfl trivial
  | partialBuild w n =>
    exact viable_of_isPrefix (c := .build w n .industry) ⟨[.sign .industry], rfl⟩ rfl trivial
  | partialJoin => exact viable_of_isPrefix (c := .join "") ⟨[.free ""], rfl⟩ rfl trivial
  | _ => exact viable_of_isPrefix List.prefix_rfl rfl trivial

namespace Viable

/-- In a viable row a number follows each sign that takes one. -/
theorem isChain {ks : List TokenKind} (h : Viable ks) : ks.IsChain NumberBehind := by
  obtain ⟨c, -, -, more, hmore⟩ := exists_command_of_viable h
  have hchain := c.isChain_words
  rw [← hmore] at hchain
  exact hchain.left_of_append

theorem eq_number {ks : List TokenKind} {k l : TokenKind} (h : Viable (ks ++ [k] ++ [l]))
    (hk : k.TakesNumber) : l = .number := by
  have hchain := h.isChain
  rw [List.append_assoc] at hchain
  exact (List.isChain_cons_cons.mp hchain.right_of_append).1 hk

theorem first {k : TokenKind} (h : Viable [k]) : k ∈ Reading.orderStarts := by
  obtain ⟨c, -, -, more, hmore⟩ := exists_command_of_viable h
  cases c <;> exact (List.cons.inj hmore).1 ▸ by decide

/-- Behind a fleet there is an action. -/
theorem fleetAction {k : TokenKind} (h : Viable [.fleetMark, .number, k]) :
    k ∈ Reading.fleetActions := by
  obtain ⟨c, hcomplete, hstop, more, hmore⟩ := exists_command_of_viable h
  rcases c.action_cases hcomplete hstop with ⟨f, s, ws, hwords, hs⟩ | ⟨w, ws, hwords⟩ | hword
  · rw [hwords] at hmore
    obtain ⟨-, hmore⟩ := List.cons.inj hmore
    obtain ⟨-, hmore⟩ := List.cons.inj hmore
    exact (List.cons.inj hmore).1 ▸ hs
  · rw [hwords] at hmore
    cases (List.cons.inj hmore).1
  · rcases hword with ⟨text, rfl⟩ | rfl <;> cases (List.cons.inj hmore).1

/-- Behind a world there is a build. -/
theorem worldAction {k : TokenKind} (h : Viable [.worldMark, .number, k]) : k = .build := by
  obtain ⟨c, hcomplete, hstop, more, hmore⟩ := exists_command_of_viable h
  rcases c.action_cases hcomplete hstop with ⟨f, s, ws, hwords, -⟩ | ⟨w, ws, hwords⟩ | hword
  · rw [hwords] at hmore
    cases (List.cons.inj hmore).1
  · rw [hwords] at hmore
    obtain ⟨-, hmore⟩ := List.cons.inj hmore
    obtain ⟨-, hmore⟩ := List.cons.inj hmore
    exact (List.cons.inj hmore).1
  · rcases hword with ⟨text, rfl⟩ | rfl <;> cases (List.cons.inj hmore).1

end Viable

end Grammar

/-! ## Refusals -/

namespace Reading

/-- Why tokens are refused with an error: the words that they start with open
an order, and with what comes next they open none, or it is a number that is
too large. At the end of the line only a number can be missing. -/
structure Refusal (ts : List Token) (e : SyntaxError) (ws : List Word) (rest : List Token) :
    Prop where
  leads : Leads ws ts rest
  viable : Grammar.Viable (ws.map Word.kind)
  found : e.found = next rest
  blame : (¬ Grammar.Viable (ws.map Word.kind ++ [(next rest).kind]) ∧
      ∀ t, e ≠ .numberOutOfRange t) ∨
    ((next rest).kind = .number ∧ word32? (next rest).text.toList = none)
  atEnd : (next rest).isEnd = true → e = .expected (.one .number) (next rest) ∧
    ∃ k ∈ (ws.map Word.kind).getLast?, k.TakesNumber

/-- Where a number is due, a sign that takes one is last. -/
theorem NumberDue.exists_sign {ws : List Word} (h : NumberDue ws) :
    ∃ vs s, ws = vs ++ [.sign s] ∧ s.kind.TakesNumber := by
  have hlast : ∃ s, ws.getLast? = some (.sign s) ∧ s.kind.TakesNumber := by
    cases h with
    | fleet => exact ⟨.fleetMark, rfl, by decide⟩
    | world => exact ⟨.worldMark, rfl, by decide⟩
    | hop f path =>
      refine ⟨.worldMark, ?_, by decide⟩
      rw [← List.append_assoc, List.getLast?_concat]
    | transferAmount f => exact ⟨.transfer, rfl, by decide⟩
    | transferTarget f n => exact ⟨.fleetMark, rfl, by decide⟩
    | attackTarget f => exact ⟨.fleetMark, rfl, by decide⟩
    | buildAmount w => exact ⟨.build, rfl, by decide⟩
    | buildTarget w n => exact ⟨.fleetMark, rfl, by decide⟩
  obtain ⟨s, hs, htakes⟩ := hlast
  obtain ⟨vs, hvs⟩ := List.getLast?_eq_some_iff.mp hs
  exact ⟨vs, s, hvs, htakes⟩

/-- Words behind which a number is due open an order. -/
theorem NumberDue.viable {ws : List Word} (h : NumberDue ws) :
    Grammar.Viable (ws.map Word.kind) := by
  cases h with
  | fleet =>
    exact Grammar.viable_of_isPrefix (c := .fireAtWorld ⟨0⟩ .industry)
      ⟨[.number 0, .sign .attack, .sign .industry], rfl⟩ rfl trivial
  | world =>
    exact Grammar.viable_of_isPrefix (c := .build ⟨0⟩ 0 .industry)
      ⟨[.number 0, .sign .build, .number 0, .sign .industry], rfl⟩ rfl trivial
  | hop f path =>
    refine Grammar.viable_of_isPrefix (c := .move f (path ++ [⟨0⟩])) ⟨[.number 0], ?_⟩ rfl
      ⟨by simp, by decide⟩
    simp [Command.words, WorldId.words]
  | transferAmount f =>
    exact Grammar.viable_of_isPrefix (c := .transfer f 0 .industry)
      ⟨[.number 0, .sign .industry], rfl⟩ rfl trivial
  | transferTarget f n =>
    exact Grammar.viable_of_isPrefix (c := .transfer f n (.fleet ⟨0⟩)) ⟨[.number 0], rfl⟩ rfl
      trivial
  | attackTarget f =>
    exact Grammar.viable_of_isPrefix (c := .fireAtFleet f ⟨0⟩) ⟨[.number 0], rfl⟩ rfl trivial
  | buildAmount w =>
    exact Grammar.viable_of_isPrefix (c := .build w 0 .industry)
      ⟨[.number 0, .sign .industry], rfl⟩ rfl trivial
  | buildTarget w n =>
    exact Grammar.viable_of_isPrefix (c := .build w n (.fleet ⟨0⟩)) ⟨[.number 0], rfl⟩ rfl trivial

/-- Where a number is due and none is read, the refusal is at the token in its
place. -/
theorem NumberDue.refusal {ts rest : List Token} {e : SyntaxError} {ws : List Word}
    (hdue : NumberDue ws) (hleads : Leads ws ts rest) (hnumber : number rest = .error e) :
    Refusal ts e ws rest := by
  obtain ⟨vs, s, rfl, htakes⟩ := hdue.exists_sign
  have hkinds : (vs ++ [Word.sign s]).map Word.kind = vs.map Word.kind ++ [s.kind] := by
    rw [List.map_append]
    rfl
  refine ⟨hleads, hdue.viable, found_of_number_error hnumber, ?_, fun hend => ?_⟩
  · rcases number_error hnumber with ⟨hne, rfl⟩ | ⟨hkind, hlarge, -⟩
    · rw [hkinds]
      exact .inl ⟨fun hviable => hne (hviable.eq_number htakes), by simp⟩
    · exact .inr ⟨hkind, hlarge⟩
  · rcases number_error hnumber with ⟨-, rfl⟩ | ⟨hkind, -⟩
    · refine ⟨rfl, s.kind, ?_, htakes⟩
      rw [hkinds, List.getLast?_concat]
      rfl
    · simp [Token.isEnd, hkind] at hend

theorem Fails.exists_refusal {ts : List Token} {e : SyntaxError} (h : Fails ts e) :
    ∃ ws rest, Refusal ts e ws rest := by
  cases h with
  | number hdue hno =>
    obtain ⟨rest, hleads, hnumber⟩ := hno
    exact ⟨_, rest, hdue.refusal hleads hnumber⟩
  | start hno hend =>
    refine ⟨[], ts, ⟨rfl, ?_, rfl, .inl ⟨fun hviable => hno hviable.first, by simp⟩, ?_⟩⟩
    · exact NumberDue.fleet.viable.of_isPrefix List.nil_prefix
    · simp [hend]
  | @fleetAction f rest hleads hno hend =>
    refine ⟨f.words, rest, ⟨hleads, ?_, rfl, .inl ⟨fun hviable => hno hviable.fleetAction, by simp⟩,
      ?_⟩⟩
    · exact Grammar.viable_words (c := .partialFleet f) (k := .endOfInput) rfl
    · simp [hend]
  | @worldAction w rest hleads hno hend =>
    refine ⟨w.words, rest, ⟨hleads, ?_, rfl, .inl ⟨fun hviable => hno hviable.worldAction, by simp⟩,
      ?_⟩⟩
    · exact Grammar.viable_words (c := .partialWorld w) (k := .endOfInput) rfl
    · simp [hend]

/-- Every error of a line that is to be sent is a refusal. A token that is left
over behind a command is one that the command stops before. -/
theorem exists_refusal {line : String} {e : SyntaxError} (h : (final line).error = some e) :
    ∃ ws rest, Refusal (tokenize line) e ws rest := by
  unfold final finalOfTokens at h
  split at h
  · next c rest horder =>
    split at h
    · cases h
    next hend =>
    obtain rfl := Option.some.inj h
    cases c with
    | none =>
      obtain ⟨hnext, rfl⟩ := order_eq_none_iff.mp horder
      simp [Token.isEnd, hnext] at hend
    | some c =>
      obtain ⟨hleads, hstop⟩ := order_eq_ok_iff.mp horder
      refine ⟨c.words, rest, ⟨hleads, Grammar.viable_words hstop, rfl, ?_, ?_⟩⟩
      · exact .inl ⟨Grammar.not_viable_of_stops hstop, by simp⟩
      · exact fun hat => absurd hat hend
  · next horder =>
    obtain rfl := Option.some.inj h
    exact (fails_of_order_error horder).exists_refusal

end Reading

end FleetOrders
