/-
FleetOrders.Proofs.Spellings — texts that say given words.

A word has a canonical text, and a number also has texts with leading
zeros. What a player wrote, and what suggestions repeat of it, says the
same words in another spelling.

* `Spells` — the text is the words in a row, without blanks; the numbers
  may have leading zeros.
* `Apart` — words that stay apart when nothing stands between them.
  `Apart.leads_tokenize` cuts a text that spells such words back into
  them.
* `Command.leads_tokenize_wire` — so the wire text of a command is cut
  into the words of the command. Nor has it blanks around it
  (`Command.trimmed_wire`).
-/
import FleetOrders.Proofs.Words

namespace FleetOrders

open Text (isBlank isDigit upper dropWord? word32?)

/-! ## Spelled words -/

/-- The text is the word: the capitals of a sign, any numeral of a number,
a blank before a free text. -/
def Word.Writes : Word → List Char → Prop
  | .sign s, cs => cs = s.letters
  | .number n, cs => word32? cs = some n
  | .free text, cs => cs = ' ' :: text.toList

/-- The text is the words in a row. -/
def Spells : List Word → List Char → Prop
  | [], cs => cs = []
  | w :: ws, cs => ∃ ds more, cs = ds ++ more ∧ w.Writes ds ∧ Spells ws more

theorem Word.writes_chars (w : Word) : w.Writes w.chars := by
  cases w with
  | sign s => rfl
  | number n => exact Text.word32?_digits n
  | free text => rfl

theorem Spells.cons {w : Word} {ws : List Word} {ds cs : List Char} (hw : w.Writes ds)
    (h : Spells ws cs) : Spells (w :: ws) (ds ++ cs) :=
  ⟨ds, cs, rfl, hw, h⟩

theorem Spells.append {vs ws : List Word} {cs ds : List Char} (hv : Spells vs cs)
    (hw : Spells ws ds) : Spells (vs ++ ws) (cs ++ ds) := by
  induction vs generalizing cs with
  | nil =>
    obtain rfl : cs = [] := hv
    exact hw
  | cons v vs ih =>
    obtain ⟨es, more, rfl, hes, hmore⟩ := hv
    rw [List.append_assoc]
    exact .cons hes (ih hmore)

theorem Spells.exists_append {vs ws : List Word} {cs : List Char} (h : Spells (vs ++ ws) cs) :
    ∃ ds es, cs = ds ++ es ∧ Spells vs ds ∧ Spells ws es := by
  induction vs generalizing cs with
  | nil => exact ⟨[], cs, rfl, rfl, h⟩
  | cons v vs ih =>
    obtain ⟨fs, more, rfl, hfs, hmore⟩ := h
    obtain ⟨ds, es, rfl, hds, hes⟩ := ih hmore
    exact ⟨fs ++ ds, es, (List.append_assoc fs ds es).symm, .cons hfs hds, hes⟩

/-- The canonical text of words spells them. -/
theorem spells_chars (ws : List Word) : Spells ws (ws.flatMap Word.chars) := by
  induction ws with
  | nil => rfl
  | cons w ws ih => exact .cons w.writes_chars ih

theorem FleetId.spells_text (f : FleetId) : Spells f.words f.text.toList :=
  f.toList_text ▸ spells_chars f.words

theorem WorldId.spells_text (w : WorldId) : Spells w.words w.text.toList :=
  w.toList_text ▸ spells_chars w.words

/-! ## Cutting words apart -/

namespace Segment

/-- No digit stands at the head of the text. -/
def NoDigitHead (cs : List Char) : Prop :=
  ∀ c ∈ cs.head?, isDigit c = false

theorem noDigitHead_nil : NoDigitHead [] := nofun

theorem noDigitHead_cons {c : Char} (h : isDigit c = false) (rest : List Char) :
    NoDigitHead (c :: rest) := by
  intro d hd
  obtain rfl := Option.some.inj hd
  exact h

theorem noDigitHead_letters (s : Sign) (rest : List Char) : NoDigitHead (s.letters ++ rest) := by
  cases s <;> exact noDigitHead_cons rfl _

theorem NoDigitHead.append {cs ds : List Char} (hcs : NoDigitHead cs) (hds : NoDigitHead ds) :
    NoDigitHead (cs ++ ds) := by
  cases cs with
  | nil => exact hds
  | cons c cs => exact noDigitHead_cons (hcs c rfl) (cs ++ ds)

theorem dropWord?_of_ne {w c : Char} (h : upper w ≠ upper c) (word text : List Char) :
    dropWord? (w :: word) (c :: text) = none := by
  simp [dropWord?, Text.sameLetter, h]

theorem upper_ne_of_isDigit {c d : Char} (hd : isDigit d = true) (hc : 57 < c.toNat) :
    c ≠ upper d := by
  rw [Text.upper_of_isDigit hd]
  rintro rfl
  have := Text.isDigit_iff.mp hd
  omega

theorem letterKind?_of_isDigit {d : Char} (hd : isDigit d = true) (next : Option Char) :
    letterKind? d next = none := by
  unfold letterKind?
  rw [Text.upper_of_isDigit hd]
  split
  case h_8 => rfl
  all_goals exact absurd hd (by decide)

/-- A digit goes to the number that follows, or starts one. -/
theorem segments_digit {d : Char} (hd : isDigit d = true) (rest : List Char) :
    segments (d :: rest) = consDigit d (segments rest) := by
  have hjoin : dropWord? ['J', 'O', 'I', 'N'] (d :: rest) = none :=
    dropWord?_of_ne (upper_ne_of_isDigit hd (by decide)) _ rest
  have hturn : dropWord? ['T', 'U', 'R', 'N'] (d :: rest) = none :=
    dropWord?_of_ne (upper_ne_of_isDigit hd (by decide)) _ rest
  rw [segments, hjoin, hturn, letterKind?_of_isDigit hd]
  simp [hd]

/-- A number is cut off only where a digit stands. -/
theorem segments_ne_number {rest : List Char} (h : NoDigitHead rest) (ds : List Char)
    (more : List Segment) : segments rest ≠ .lexeme .number ds :: more := by
  intro heq
  fun_cases segments rest with
  | case1 => simp [segments] at heq
  | case2 c rest tail hword =>
    simp [segments, hword] at heq
  | case3 c rest hno tail hword =>
    simp [segments, hno, hword] at heq
  | case4 c rest hnoJoin hnoTurn kind hletter =>
    have hlexeme := isLexeme_of_letterKind? hletter
    simp only [segments, hnoJoin, hnoTurn, hletter, List.cons.injEq, Segment.lexeme.injEq] at heq
    rw [heq.1.1] at hlexeme
    have hdigit := hlexeme.2 c (List.mem_singleton_self c)
    rw [h c rfl] at hdigit
    cases hdigit
  | case5 c rest hnoJoin hnoTurn hletter hdigit =>
    rw [h c rfl] at hdigit
    cases hdigit
  | case6 c rest hnoJoin hnoTurn hletter hdigit hblank =>
    simp [segments, hnoJoin, hnoTurn, hletter, hdigit, hblank] at heq
  | case7 c rest hnoJoin hnoTurn hletter hdigit hblank =>
    simp [segments, hnoJoin, hnoTurn, hletter, hdigit, hblank] at heq

/-- A run of digits with no digit after it is one number. -/
theorem segments_digits {ds : List Char} (hne : ds ≠ []) (hds : ∀ c ∈ ds, isDigit c = true)
    {rest : List Char} (hrest : NoDigitHead rest) :
    segments (ds ++ rest) = .lexeme .number ds :: segments rest := by
  induction ds with
  | nil => exact absurd rfl hne
  | cons d ds ih =>
    rw [List.cons_append, segments_digit (hds d List.mem_cons_self)]
    cases ds with
    | nil =>
      rw [List.nil_append]
      unfold consDigit
      split
      · rename_i hnumber
        exact absurd hnumber (segments_ne_number hrest _ _)
      · rfl
    | cons e ds =>
      rw [ih (List.cons_ne_nil e ds) fun c hc => hds c (List.mem_cons_of_mem d hc)]
      rfl

theorem segments_letter {c : Char} {rest : List Char} {kind : TokenKind}
    (hjoin : dropWord? ['J', 'O', 'I', 'N'] (c :: rest) = none)
    (hturn : dropWord? ['T', 'U', 'R', 'N'] (c :: rest) = none)
    (hkind : letterKind? c rest.head? = some kind) :
    segments (c :: rest) = .lexeme kind [c] :: segments rest := by
  rw [segments, hjoin, hturn, hkind]

/-- The letters `A`, `I` and `P` are signs whatever follows them. -/
theorem segments_lone {s : Sign} (h : s = .attack ∨ s = .industry ∨ s = .population)
    (rest : List Char) :
    segments (s.letters ++ rest) = .lexeme s.kind s.letters :: segments rest := by
  rcases h with rfl | rfl | rfl <;> exact segments_letter rfl rfl rfl

/-- A letter before a number is its sign: `F` and `W` because the digit
makes them marks, `T` because the digit keeps it from opening `TURN`. -/
theorem segments_numbered {s : Sign}
    (h : s = .fleetMark ∨ s = .worldMark ∨ s = .build ∨ s = .transfer) {d : Char}
    (hd : isDigit d = true) (rest : List Char) :
    segments (s.letters ++ d :: rest) = .lexeme s.kind s.letters :: segments (d :: rest) := by
  have hturn : dropWord? ['U', 'R', 'N'] (d :: rest) = none :=
    dropWord?_of_ne (upper_ne_of_isDigit hd (by decide)) _ rest
  have hmark : (d :: rest).head?.any isDigit = true := by simpa using hd
  rcases h with rfl | rfl | rfl | rfl
  · exact segments_letter rfl rfl (if_pos hmark)
  · exact segments_letter rfl rfl (if_pos hmark)
  · exact segments_letter rfl rfl rfl
  · exact segments_letter rfl hturn rfl

end Segment

/-! ## Words that stay apart -/

/-- Words that stay apart when nothing stands between them: each number
has a letter before it, and the words `JOIN` and `TURN` do not occur. -/
inductive Apart : List Word → Prop where
  | nil : Apart []
  | lone {s : Sign} {ws : List Word} (h : s = .attack ∨ s = .industry ∨ s = .population) :
      Apart ws → Apart (.sign s :: ws)
  | numbered {s : Sign} {ws : List Word}
      (h : s = .fleetMark ∨ s = .worldMark ∨ s = .build ∨ s = .transfer) (n : UInt32) :
      Apart ws → Apart (.sign s :: .number n :: ws)

namespace Apart

theorem hop {ws : List Word} (h : Apart ws) (w : WorldId) : Apart (w.words ++ ws) :=
  .numbered (.inr (.inl rfl)) w.number h

theorem path : ∀ p : List WorldId, Apart (p.flatMap WorldId.words)
  | [] => .nil
  | w :: p => (path p).hop w

end Apart

theorem Destination.apart_words (d : Destination) : Apart d.words := by
  cases d with
  | industry => exact .lone (.inr (.inl rfl)) .nil
  | population => exact .lone (.inr (.inr rfl)) .nil
  | fleet id => exact .numbered (.inl rfl) id.number .nil

theorem Resource.apart_words (r : Resource) : Apart r.words := by
  cases r with
  | industry => exact .lone (.inr (.inl rfl)) .nil
  | population => exact .lone (.inr (.inr rfl)) .nil

/-- The words of orders to fleets and worlds stay apart. -/
theorem Command.apart_words {c : Command} (hjoin : ∀ text, c ≠ .join text)
    (hpartial : c ≠ .partialJoin) (hturn : c ≠ .turn) : Apart c.words := by
  have fleet : ∀ (f : FleetId) {ws : List Word}, Apart ws → Apart (f.words ++ ws) :=
    fun f _ h => .numbered (.inl rfl) f.number h
  have build : ∀ (n : UInt32) {ws : List Word},
      Apart ws → Apart (.sign .build :: .number n :: ws) :=
    fun n _ h => .numbered (.inr (.inr (.inl rfl))) n h
  have transfer : ∀ (n : UInt32) {ws : List Word},
      Apart ws → Apart (.sign .transfer :: .number n :: ws) :=
    fun n _ h => .numbered (.inr (.inr (.inr rfl))) n h
  have attack : ∀ {ws : List Word}, Apart ws → Apart (.sign .attack :: ws) :=
    fun h => .lone (.inl rfl) h
  cases c with
  | move f p => exact fleet f (.path p)
  | build w n d => exact (build n d.apart_words).hop w
  | transfer f n d => exact fleet f (transfer n d.apart_words)
  | fireAtWorld f r => exact fleet f (attack r.apart_words)
  | fireAtFleet f g => exact fleet f (attack (fleet g .nil))
  | ambush f => exact fleet f (attack .nil)
  | join text => exact absurd rfl (hjoin text)
  | turn => exact absurd rfl hturn
  | partialFleet f => exact fleet f .nil
  | partialWorld w => exact Apart.nil.hop w
  | partialTransfer f n => exact fleet f (transfer n .nil)
  | partialBuild w n => exact (build n .nil).hop w
  | partialJoin => exact absurd rfl hpartial

/-! ## Cutting a spelled text -/

namespace Apart

variable {ws : List Word} {cs : List Char}

/-- Words that stay apart start with a letter, if there are any. -/
theorem noDigitHead (h : Apart ws) (hs : Spells ws cs) : Segment.NoDigitHead cs := by
  cases h with
  | nil =>
    obtain rfl : cs = [] := hs
    exact Segment.noDigitHead_nil
  | lone | numbered =>
    obtain ⟨_, more, rfl, rfl, -⟩ := hs
    exact Segment.noDigitHead_letters _ more

theorem isBlank_of_mem (h : Apart ws) (hs : Spells ws cs) : ∀ c ∈ cs, isBlank c = false := by
  induction h generalizing cs with
  | nil =>
    obtain rfl : cs = [] := hs
    intro c hc
    cases hc
  | @lone s ws _ _ ih =>
    obtain ⟨_, more, rfl, rfl, hmore⟩ := hs
    intro c hc
    rcases List.mem_append.mp hc with hc | hc
    · exact s.isBlank_of_mem_letters c hc
    · exact ih hmore c hc
  | @numbered s ws _ n _ ih =>
    obtain ⟨_, _, rfl, rfl, ds, more, rfl, hds, hmore⟩ := hs
    intro c hc
    rcases List.mem_append.mp hc with hc | hc
    · exact s.isBlank_of_mem_letters c hc
    · rcases List.mem_append.mp hc with hc | hc
      · exact Text.isBlank_of_isDigit ((Text.word32?_eq_some_iff.mp hds).2.1 c hc)
      · exact ih hmore c hc

/-- Cutting a text that starts with a spelling of such words gives tokens
that start with the words. What follows must not prolong a last number. -/
theorem leads_ofSegments_append (h : Apart ws) (hs : Spells ws cs) {rest : List Char}
    (hrest : Segment.NoDigitHead rest) (offset : Nat) :
    ∃ stop, Leads ws (Token.ofSegments offset (Segment.segments (cs ++ rest)))
      (Token.ofSegments stop (Segment.segments rest)) := by
  induction h generalizing cs offset with
  | nil =>
    obtain rfl : cs = [] := hs
    exact ⟨offset, rfl⟩
  | @lone s ws hlone _ ih =>
    obtain ⟨_, more, rfl, rfl, hmore⟩ := hs
    obtain ⟨stop, htail⟩ := ih hmore (offset + byteLength s.letters)
    rw [List.append_assoc, Segment.segments_lone hlone]
    exact ⟨stop, _, _, rfl, rfl, htail⟩
  | @numbered s ws hmark n hws ih =>
    obtain ⟨_, _, rfl, rfl, ds, more, rfl, hds, hmore⟩ := hs
    obtain ⟨hne, hdigits, -⟩ := Text.word32?_eq_some_iff.mp hds
    obtain ⟨stop, htail⟩ := ih hmore (offset + byteLength s.letters + byteLength ds)
    have hnumber := Segment.segments_digits hne hdigits ((hws.noDigitHead hmore).append hrest)
    -- the mark is a sign because a digit follows it
    obtain ⟨d, es, rfl⟩ := List.exists_cons_of_ne_nil hne
    have hsign := Segment.segments_numbered hmark (hdigits d List.mem_cons_self)
      (es ++ (more ++ rest))
    rw [← List.cons_append, hnumber] at hsign
    rw [List.append_assoc, List.append_assoc, hsign]
    have hvalue : word32? (d :: es) = some n := hds
    refine ⟨stop, _, _, rfl, rfl, _, _, rfl, ⟨rfl, ?_⟩, htail⟩
    simpa [Token.spelling, Text.map_upper_of_isDigit hdigits] using hvalue

/-- Cutting a text that spells such words gives tokens that are the
words. -/
theorem leads_ofSegments (h : Apart ws) (hs : Spells ws cs) (offset : Nat) :
    ∃ stop, Leads ws (Token.ofSegments offset (Segment.segments cs)) [Token.atEnd stop] := by
  obtain ⟨stop, hleads⟩ := h.leads_ofSegments_append hs Segment.noDigitHead_nil offset
  rw [List.append_nil] at hleads
  exact ⟨stop, hleads⟩

/-- The tokens of a text that spells such words are the words. -/
theorem leads_tokenize (h : Apart ws) {text : String} (hs : Spells ws text.toList) :
    ∃ stop, Leads ws (tokenize text) [Token.atEnd stop] := by
  rw [tokenize, Text.trim_of_bareEnds (Text.bareEnds_of_forall (h.isBlank_of_mem hs))]
  exact h.leads_ofSegments hs 0

end Apart

/-! ## The tokens of a wire text -/

/-- What every complete command that was read from a line keeps to: a path
names a world, and the text of `JOIN` is there and has no blanks around
it. -/
def Command.WellFormed : Command → Prop
  | .move _ path => path ≠ []
  | .join text => text ≠ "" ∧ Text.trimmed text = text
  | _ => True

theorem segments_join {text : List Char} (hne : text ≠ []) (hends : Text.BareEnds text) :
    Segment.segments ('J' :: 'O' :: 'I' :: 'N' :: ' ' :: text) =
      [.lexeme .join ['J', 'O', 'I', 'N'], .space ' ', .lexeme .joinText text] := by
  obtain ⟨c, cs, rfl⟩ := List.exists_cons_of_ne_nil hne
  have hc : isBlank c = false := hends.head c rfl
  have hspace : isBlank ' ' = true := by decide
  have hafter : Segment.afterJoin (' ' :: c :: cs) = [.space ' ', .lexeme .joinText (c :: cs)] := by
    simp [Segment.afterJoin, hspace, hc]
  rw [← hafter]
  rfl

theorem bareEnds_join {text : String} (hne : text ≠ "") (htrim : Text.trimmed text = text) :
    Text.BareEnds ("JOIN " ++ text).toList := by
  have hchars : ("JOIN " ++ text).toList = 'J' :: ['O', 'I', 'N', ' '] ++ text.toList := by
    simp
  rw [hchars]
  exact Text.bareEnds_cons_append (by decide) (by simpa using hne)
    (Text.trimmed_eq_self_iff.mp htrim)

theorem leads_tokenize_join {text : String} (hne : text ≠ "") (htrim : Text.trimmed text = text) :
    ∃ stop, Leads [.sign .join, .free text] (tokenize ("JOIN " ++ text)) [Token.atEnd stop] := by
  have hends := Text.trimmed_eq_self_iff.mp htrim
  have hnil : text.toList ≠ [] := by simpa using hne
  have hchars : ("JOIN " ++ text).toList = 'J' :: 'O' :: 'I' :: 'N' :: ' ' :: text.toList := by
    simp
  rw [tokenize, Text.trim_of_bareEnds (bareEnds_join hne htrim), hchars,
    segments_join hnil hends]
  refine ⟨_, _, _, rfl, rfl, _, _, rfl, ⟨rfl, ?_⟩, rfl⟩
  simp [Token.spelling]

/-- A wire text is that of `JOIN`, that of `TURN`, or words that stay apart
in a row. -/
theorem Command.wire_cases {c : Command} {wire : String} (hwire : c.wire? = some wire) :
    (∃ text, c = .join text ∧ wire = "JOIN " ++ text) ∨ (c = .turn ∧ wire = "TURN") ∨
      Apart c.words ∧ wire.toList = c.words.flatMap Word.chars := by
  by_cases hjoin : ∃ text, c = .join text
  · obtain ⟨text, rfl⟩ := hjoin
    exact .inl ⟨text, rfl, (Option.some.inj hwire).symm⟩
  · by_cases hturn : c = .turn
    · subst hturn
      exact .inr (.inl ⟨rfl, (Option.some.inj hwire).symm⟩)
    · have hcomplete := Command.isComplete_of_wire? hwire
      have hapart : Apart c.words :=
        c.apart_words (fun text h => hjoin ⟨text, h⟩) (by rintro rfl; cases hcomplete) hturn
      rw [c.wire?_eq_words hcomplete, Option.some.injEq] at hwire
      exact .inr (.inr ⟨hapart, by rw [← hwire, String.toList_ofList]⟩)

/-- The canonical text of a well-formed command has no blanks around it. -/
theorem Command.trimmed_wire {c : Command} {wire : String} (hwire : c.wire? = some wire)
    (hformed : c.WellFormed) : Text.trimmed wire = wire := by
  rw [Text.trimmed_eq_self_iff]
  rcases c.wire_cases hwire with ⟨text, rfl, rfl⟩ | ⟨rfl, rfl⟩ | ⟨hapart, hchars⟩
  · exact bareEnds_join hformed.1 hformed.2
  · exact Text.bareEnds_of_forall (by simp; decide)
  · rw [hchars]
    exact Text.bareEnds_of_forall (hapart.isBlank_of_mem (spells_chars c.words))

/-- The tokens of the wire text of a well-formed command are its words. -/
theorem Command.leads_tokenize_wire {c : Command} {wire : String} (hwire : c.wire? = some wire)
    (hformed : c.WellFormed) : ∃ stop, Leads c.words (tokenize wire) [Token.atEnd stop] := by
  rcases c.wire_cases hwire with ⟨text, rfl, rfl⟩ | ⟨rfl, rfl⟩ | ⟨hapart, hchars⟩
  · exact leads_tokenize_join hformed.1 hformed.2
  · have htokens : tokenize "TURN" = [⟨.turn, "TURN", 0⟩, Token.atEnd 4] := by decide
    exact ⟨4, htokens ▸ ⟨_, _, rfl, rfl, rfl⟩⟩
  · refine hapart.leads_tokenize ?_
    rw [hchars]
    exact spells_chars c.words

end FleetOrders
