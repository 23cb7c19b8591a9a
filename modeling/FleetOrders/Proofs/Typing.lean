/-
FleetOrders.Proofs.Typing — while an order is being typed, earlier text is
never blamed.

A text that is cut off somewhere in the wire text of an order still starts with
words of that order. A number that is cut off is a smaller number. Only a letter
that waits for its number may be read as something else: `F` and `W` are no
marks without a digit.

* `Begun` — how words begin: with some of the words, and perhaps the letter of
  a sign whose number is to come.
* `Apart.begun` — so begins every text that starts the text of the words.
* `Begun.exists_leads` — what its tokens are: words of the order, and behind
  them the last letter at most.
* `Reading.blames_last_character` — so an error is met at the last character or
  at the end.
-/
import FleetOrders.Proofs.Offences
import FleetOrders.Proofs.WireRoundTrip

namespace FleetOrders

open Text (isBlank isDigit trimmed digits numeral word32?)

/-! ## Words that begin -/

/-- The text begins the words: it spells words of the same kinds as the first of
them, or these and the letter of a sign that takes a number. -/
inductive Begun (ws : List Word) : List Char → Prop where
  | words {vs : List Word} {cs : List Char} :
      Apart vs → Spells vs cs → vs.map Word.kind <+: ws.map Word.kind → Begun ws cs
  | sign {vs : List Word} {s : Sign} {cs : List Char} :
      Apart vs → Spells vs cs →
      (s = .fleetMark ∨ s = .worldMark ∨ s = .build ∨ s = .transfer) →
      vs.map Word.kind <+: ws.map Word.kind → Begun ws (cs ++ s.letters)

namespace Begun

variable {ws : List Word} {cs : List Char}

theorem nil (ws : List Word) : Begun ws [] :=
  .words .nil rfl List.nil_prefix

/-- Words before those that begin. -/
theorem behind {us : List Word} {ds : List Char} (h : Begun ws cs) (hs : Spells us ds)
    (hapart : ∀ vs, Apart vs → Apart (us ++ vs)) : Begun (us ++ ws) (ds ++ cs) := by
  have hkinds : ∀ {vs : List Word}, vs.map Word.kind <+: ws.map Word.kind →
      (us ++ vs).map Word.kind <+: (us ++ ws).map Word.kind := by
    intro vs hvs
    rw [List.map_append, List.map_append]
    exact (List.prefix_append_right_inj _).mpr hvs
  cases h with
  | words hvs hcs hpre => exact .words (hapart _ hvs) (hs.append hcs) (hkinds hpre)
  | sign hvs hcs hsign hpre =>
    rw [← List.append_assoc]
    exact .sign (hapart _ hvs) (hs.append hcs) hsign (hkinds hpre)

theorem isBlank_of_mem (h : Begun ws cs) : ∀ c ∈ cs, isBlank c = false := by
  cases h with
  | words hvs hcs => exact hvs.isBlank_of_mem hcs
  | @sign vs s cs hvs hcs =>
    intro c hc
    rcases List.mem_append.mp hc with hc | hc
    · exact hvs.isBlank_of_mem hcs c hc
    · exact s.isBlank_of_mem_letters c hc

end Begun

/-- Every text that starts the text of words begins them. -/
theorem Apart.begun {ws : List Word} (h : Apart ws) {cs : List Char}
    (hpre : cs <+: ws.flatMap Word.chars) : Begun ws cs := by
  induction h generalizing cs with
  | nil =>
    obtain rfl : cs = [] := List.prefix_nil.mp hpre
    exact .nil []
  | @lone s ws hs _ ih =>
    obtain ⟨letter, hletter⟩ : ∃ c, s.letters = [c] := by
      rcases hs with rfl | rfl | rfl <;> exact ⟨_, rfl⟩
    rw [List.flatMap_cons, Word.chars, hletter, List.singleton_append] at hpre
    cases cs with
    | nil => exact .nil _
    | cons c cs =>
      obtain ⟨rfl, htail⟩ := List.cons_prefix_cons.mp hpre
      have hsign : Spells [.sign s] [c] := ⟨[c], [], rfl, hletter.symm, rfl⟩
      exact (ih htail).behind hsign fun _ hvs => .lone hs hvs
  | @numbered s ws hs n _ ih =>
    obtain ⟨letter, hletter⟩ : ∃ c, s.letters = [c] := by
      rcases hs with rfl | rfl | rfl | rfl <;> exact ⟨_, rfl⟩
    rw [List.flatMap_cons, List.flatMap_cons, Word.chars, hletter, Word.chars,
      List.singleton_append] at hpre
    cases cs with
    | nil => exact .nil _
    | cons c cs =>
    obtain ⟨rfl, htail⟩ := List.cons_prefix_cons.mp hpre
    by_cases hne : cs = []
    · rw [hne, ← hletter, ← List.nil_append s.letters]
      exact .sign .nil rfl hs List.nil_prefix
    have hspelled : ∀ {m : UInt32} {ds : List Char}, word32? ds = some m →
        Spells [.sign s, .number m] ([c] ++ ds) :=
      fun hm => .cons hletter.symm ⟨_, [], (List.append_nil _).symm, hm, rfl⟩
    -- the text ends in the digits of the number, or goes on behind them
    rcases List.prefix_or_prefix_of_prefix htail (List.prefix_append _ _) with hcut | ⟨more, rfl⟩
    · obtain ⟨m, hm⟩ := Text.exists_word32?_of_isPrefix hcut hne
      exact .words (.numbered hs m .nil) (hspelled hm) ⟨ws.map Word.kind, rfl⟩
    · have hmore := ih ((List.prefix_append_right_inj _).mp htail)
      exact hmore.behind (hspelled (Text.word32?_digits n)) fun _ hvs => .numbered hs n hvs

/-! ## The tokens of a text that begins words -/

/-- The end marker behind words stands at the length of the trimmed line. -/
theorem stop_of_leads {line : String} {ws : List Word} {stop : Nat} (us : List Token)
    (h : Leads ws (tokenize line) (us ++ [Token.atEnd stop])) :
    stop = (trimmed line).utf8ByteSize := by
  obtain ⟨taken, htaken, -⟩ := h.exists_prefix
  have hlast := congrArg List.getLast? htaken
  rw [Token.tokenize_eq, List.getLast?_concat, ← List.append_assoc, List.getLast?_concat] at hlast
  exact (congrArg Token.offset (Option.some.inj hlast)).symm

/-- A letter whose number is to come is one token. -/
theorem segments_letters {s : Sign}
    (hs : s = .fleetMark ∨ s = .worldMark ∨ s = .build ∨ s = .transfer) :
    ∃ kind, kind ≠ .number ∧ Segment.segments s.letters = [.lexeme kind s.letters] := by
  rcases hs with rfl | rfl | rfl | rfl
  · exact ⟨.unknown, by decide, rfl⟩
  · exact ⟨.unknown, by decide, rfl⟩
  · exact ⟨.build, by decide, rfl⟩
  · exact ⟨.transfer, by decide, rfl⟩

/-- The tokens of a text that begins words are words of the same kinds, and
behind them there is a last letter at most, which is no number. -/
theorem Begun.exists_leads {ws : List Word} {typed : String} (h : Begun ws typed.toList) :
    ∃ vs rest, Leads vs (tokenize typed) rest ∧ vs.map Word.kind <+: ws.map Word.kind ∧
      (2 ≤ typed.toList.length → vs ≠ []) ∧
      ∀ t ∈ rest, t.kind ≠ .number ∧ typed.utf8ByteSize ≤ t.offset + 1 := by
  have hbare : trimmed typed = typed :=
    Text.trimmed_eq_self_iff.mpr (Text.bareEnds_of_forall h.isBlank_of_mem)
  have htokens : tokenize typed = Token.ofSegments 0 (Segment.segments typed.toList) := by
    rw [tokenize, Text.trim_of_bareEnds (Text.bareEnds_of_forall h.isBlank_of_mem)]
  generalize hcs : typed.toList = cs at h
  cases h with
  | @words vs cs hvs hspells hpre =>
    obtain ⟨stop, hleads⟩ := hvs.leads_tokenize (hcs ▸ hspells)
    have hstop : stop = (trimmed typed).utf8ByteSize := stop_of_leads [] hleads
    refine ⟨vs, _, hleads, hpre, ?_, fun t ht => ?_⟩
    · rintro hlength rfl
      obtain rfl : cs = [] := hspells
      simp at hlength
    · rw [List.mem_singleton.mp ht, ← hbare, ← hstop]
      exact ⟨by simp [Token.atEnd], Nat.le_succ stop⟩
  | @sign vs s cs hvs hspells hs hpre =>
    obtain ⟨kind, hkind, hsegments⟩ := segments_letters hs
    have hletters : byteLength s.letters = 1 := by rcases hs with rfl | rfl | rfl | rfl <;> rfl
    have hhead : Segment.NoDigitHead s.letters := by
      have hnone := Segment.noDigitHead_letters s []
      rwa [List.append_nil] at hnone
    obtain ⟨stop, hleads⟩ := hvs.leads_ofSegments_append hspells hhead 0
    rw [← hcs, ← htokens, hsegments, Token.ofSegments, Token.ofSegments, hletters] at hleads
    have hstop : stop + 1 = (trimmed typed).utf8ByteSize :=
      stop_of_leads [⟨kind, Token.spelling kind s.letters, stop⟩] hleads
    refine ⟨vs, _, hleads, hpre, ?_, fun t ht => ?_⟩
    · rintro hlength rfl
      obtain rfl : cs = [] := hspells
      rcases hs with rfl | rfl | rfl | rfl <;> simp [Sign.letters] at hlength
    · rw [← hbare, ← hstop]
      simp only [List.mem_cons, List.not_mem_nil, or_false] at ht
      rcases ht with rfl | rfl
      · exact ⟨hkind, Nat.le_refl _⟩
      · exact ⟨by simp [Token.atEnd], Nat.le_succ _⟩

/-- What is being typed shows in the first token. -/
theorem Stage.subject_ofKinds_cons (k : TokenKind) (ks ls : List TokenKind) :
    (ofKinds (k :: ks)).subject = (ofKinds (k :: ls)).subject := by
  cases k <;> rfl

namespace Reading

theorem final_stage (line : String) :
    (final line).stage = .ofKinds ((lineTokens line).map Token.kind) := by
  unfold final finalOfTokens
  split
  · split <;> rfl
  · rfl

/-- Where a line starts with a word, the word shows what is being typed. -/
theorem subject_of_leads {line : String} {w : Word} {ws : List Word} {rest : List Token}
    (h : Leads (w :: ws) (tokenize line) rest) :
    (final line).stage.subject = (Stage.ofKinds [w.kind]).subject := by
  obtain ⟨stop, htokens⟩ := exists_tokenize_eq line
  obtain ⟨more, -, hleads⟩ :=
    exists_left_over (fun _ => sound_of_mem_lineTokens) (htokens ▸ h)
  rw [final_stage, hleads.map_kind, List.map_cons, List.cons_append]
  exact Stage.subject_ofKinds_cons _ _ _

/-- While an order to a fleet or a world is typed as its wire text writes it,
there is one error at most, it is met at the last character or at the end, and
it is never that a number is too large. From the second character on it shows
what is being typed. -/
theorem blames_last_character {c : Command} {typed more : String}
    (hwire : c.wire? = some (typed ++ more)) (hformed : c.WellFormed)
    (hjoin : ∀ text, c ≠ .join text) (hturn : c ≠ .turn) :
    (∀ e, (final typed).error = some e →
      (∀ t, e ≠ .numberOutOfRange t) ∧ typed.utf8ByteSize ≤ e.offset + 1) ∧
    (2 ≤ typed.length →
      (final typed).stage.subject = (final (typed ++ more)).stage.subject) := by
  have hcomplete := Command.isComplete_of_wire? hwire
  have hapart : Apart c.words :=
    c.apart_words hjoin (by rintro rfl; cases hcomplete) hturn
  have hchars : c.words.flatMap Word.chars = typed.toList ++ more.toList := by
    rw [c.wire?_eq_words hcomplete, Option.some.injEq] at hwire
    rw [← String.toList_append, ← hwire, String.toList_ofList]
  have hbegun : Begun c.words typed.toList :=
    hapart.begun (hchars ▸ List.prefix_append _ _)
  obtain ⟨vs, rest, hleads, hpre, hlong, hrest⟩ := hbegun.exists_leads
  have hviable := (Grammar.viable_words hformed.stopsBefore_end).of_isPrefix hpre
  constructor
  · intro e herror
    obtain ⟨ws, us, hrefusal⟩ := exists_refusal herror
    obtain ⟨hkind, hoffset⟩ := hrest _ (hrefusal.found_mem_of_leads hleads hviable)
    refine ⟨?_, hoffset⟩
    rcases hrefusal.blame with ⟨-, hsmall⟩ | ⟨hnumber, -⟩
    · exact hsmall
    · rw [← hrefusal.found] at hnumber
      exact absurd hnumber hkind
  · intro hlength
    obtain ⟨v, vs, rfl⟩ := List.exists_cons_of_ne_nil (hlong (by rwa [String.length_toList]))
    obtain ⟨stop, hall⟩ := Command.leads_tokenize_wire hwire hformed
    cases hwords : c.words with
    | nil =>
      rw [hwords, List.map_nil, List.prefix_nil] at hpre
      cases hpre
    | cons w ws =>
      rw [hwords] at hpre hall
      have hkind : v.kind = w.kind := (List.cons_prefix_cons.mp hpre).1
      rw [subject_of_leads hleads, subject_of_leads hall, hkind]

/-- A path of which the last hop is not yet typed, and an amount that is
missing. -/
theorem blames_last_character_samples :
    (∃ e, (final "F5W").error = some e ∧ "F5W".utf8ByteSize ≤ e.offset + 1) ∧
    (final "F5W").stage.subject = (final ("F5W" ++ "1")).stage.subject ∧
    ∃ e, (final "W3B").error = some e ∧ (∀ t, e ≠ .numberOutOfRange t) ∧
      "W3B".utf8ByteSize ≤ e.offset + 1 := by
  have hhop : (final "F5W").error =
      some (.expected (.anyOf fleetActions) ⟨.unknown, "W", 2⟩) := by decide +kernel
  have hamount : (final "W3B").error = some (.expected (.one .number) (Token.atEnd 3)) := by
    decide +kernel
  have hmove : (Command.move ⟨5⟩ [⟨1⟩]).wire? = some ("F5W" ++ "1") := by decide +kernel
  have hbuild : (Command.build ⟨3⟩ 42 .industry).wire? = some ("W3B" ++ "42I") := by
    decide +kernel
  have hpath := blames_last_character hmove (List.cons_ne_nil _ _) (by simp) (by simp)
  have hbuilt := blames_last_character hbuild trivial (by simp) (by simp)
  exact ⟨⟨_, hhop, (hpath.1 _ hhop).2⟩, hpath.2 (by decide), ⟨_, hamount, hbuilt.1 _ hamount⟩⟩

end Reading

end FleetOrders
