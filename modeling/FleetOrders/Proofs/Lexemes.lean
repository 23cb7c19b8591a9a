/-
FleetOrders.Proofs.Lexemes — what the tokens of a line look like.

* `Sign` — the kinds of token that are always written with the same
  capitals; `Sign.letters` are those capitals.
* `IsLexeme` — what stands in a text where a lexeme of a kind was cut.
* `Token.Sound` — the same for a token: it has the text of its kind.
* `lineTokens` — the tokens of a line, all of them sound
  (`sound_of_mem_lineTokens`); one end marker follows them
  (`exists_tokenize_eq`).
-/
import FleetOrders.Proofs.Numerals
import FleetOrders.Proofs.Trimming
import FleetOrders.Token.Segment

namespace FleetOrders

open Text (isBlank isDigit upper dropWord? trim trimmed BareEnds)

/-! ## Signs -/

/-- A kind of token with one text. -/
inductive Sign where
  | fleetMark
  | worldMark
  | build
  | transfer
  | attack
  | industry
  | population
  | join
  | turn
  deriving DecidableEq, Repr

namespace Sign

def kind : Sign → TokenKind
  | .fleetMark => .fleetMark
  | .worldMark => .worldMark
  | .build => .build
  | .transfer => .transfer
  | .attack => .attack
  | .industry => .industry
  | .population => .population
  | .join => .join
  | .turn => .turn

/-- The capitals that a sign is written with. -/
def letters : Sign → List Char
  | .fleetMark => ['F']
  | .worldMark => ['W']
  | .build => ['B']
  | .transfer => ['T']
  | .attack => ['A']
  | .industry => ['I']
  | .population => ['P']
  | .join => ['J', 'O', 'I', 'N']
  | .turn => ['T', 'U', 'R', 'N']

theorem kind_ne_number (s : Sign) : s.kind ≠ .number := by
  cases s <;> decide

theorem kind_ne_endOfInput (s : Sign) : s.kind ≠ .endOfInput := by
  cases s <;> decide

theorem kind_ne_joinText (s : Sign) : s.kind ≠ .joinText := by
  cases s <;> decide

theorem kind_injective {s t : Sign} (h : s.kind = t.kind) : s = t := by
  cases s <;> cases t <;> first | rfl | cases h

theorem isBlank_of_mem_letters (s : Sign) : ∀ c ∈ s.letters, isBlank c = false := by
  have hall : s.letters.all (fun c => !isBlank c) = true := by cases s <;> rfl
  simpa using List.all_eq_true.mp hall

end Sign

/-! ## Lexemes -/

/-- What stands in a text where a lexeme of the kind was cut. -/
def IsLexeme : TokenKind → List Char → Prop
  | .number, cs => cs ≠ [] ∧ ∀ c ∈ cs, isDigit c = true
  | .joinText, cs => cs ≠ [] ∧ BareEnds cs
  | .unknown, cs => ∃ c, cs = [c]
  | .endOfInput, _ => False
  | kind, cs => ∃ s : Sign, s.kind = kind ∧ cs.map upper = s.letters

namespace Segment

/-- A word that heads a text in any case is written with its letters. -/
theorem map_upper_take_of_dropWord? :
    ∀ {word text tail : List Char}, dropWord? word text = some tail →
      (text.take word.length).map upper = word.map upper
  | [], _, _, _ => by simp
  | w :: word, [], tail, h => by simp [dropWord?] at h
  | w :: word, c :: text, tail, h => by
      unfold dropWord? at h
      split at h
      · rename_i hsame
        have hc : upper w = upper c := by simpa [Text.sameLetter] using hsame
        simp [hc, map_upper_take_of_dropWord? h]
      · cases h

/-- A letter that is cut off alone is its sign in one case or the other. -/
theorem isLexeme_of_letterKind? {c : Char} {next : Option Char} {kind : TokenKind}
    (h : letterKind? c next = some kind) : IsLexeme kind [c] := by
  have huppercase : ∀ {u : Char}, upper c = u → [c].map upper = [u] := by
    intro u hu
    rw [List.map_singleton, hu]
  unfold letterKind? at h
  split at h
  · rename_i hu
    split at h <;> cases h
    exact ⟨.fleetMark, rfl, huppercase hu⟩
  · rename_i hu
    split at h <;> cases h
    exact ⟨.worldMark, rfl, huppercase hu⟩
  · rename_i hu; cases h; exact ⟨.build, rfl, huppercase hu⟩
  · rename_i hu; cases h; exact ⟨.transfer, rfl, huppercase hu⟩
  · rename_i hu; cases h; exact ⟨.attack, rfl, huppercase hu⟩
  · rename_i hu; cases h; exact ⟨.industry, rfl, huppercase hu⟩
  · rename_i hu; cases h; exact ⟨.population, rfl, huppercase hu⟩
  · cases h

theorem mem_consDigit {c : Char} {kind : TokenKind} {cs : List Char} {segs : List Segment}
    (h : .lexeme kind cs ∈ consDigit c segs) :
    (kind = .number ∧ (cs = [c] ∨ ∃ ds, .lexeme .number ds ∈ segs ∧ cs = c :: ds)) ∨
      .lexeme kind cs ∈ segs := by
  unfold consDigit at h
  split at h
  · rcases List.mem_cons.mp h with h | h
    · injection h with hkind hcs
      exact .inl ⟨hkind, .inr ⟨_, List.mem_cons_self, hcs⟩⟩
    · exact .inr (List.mem_cons_of_mem _ h)
  · rcases List.mem_cons.mp h with h | h
    · injection h with hkind hcs
      exact .inl ⟨hkind, .inl hcs⟩
    · exact .inr h

/-- What follows `JOIN` yields one lexeme at most, and that is the rest of
the text without the blanks before it. -/
theorem mem_afterJoin {kind : TokenKind} {cs tail : List Char}
    (h : .lexeme kind cs ∈ afterJoin tail) :
    kind = .joinText ∧ cs = tail.dropWhile isBlank ∧ cs ≠ [] := by
  unfold afterJoin at h
  rcases List.mem_append.mp h with h | h
  · obtain ⟨c, -, hc⟩ := List.mem_map.mp h
    cases hc
  · split at h
    · cases h
    · rename_i hne
      injection List.mem_singleton.mp h with hkind hcs
      exact ⟨hkind, hcs, hcs ▸ hne⟩

/-- A rest that is not empty ends as the whole text does. -/
theorem last_of_suffix {rest cs : List Char} (h : rest <:+ cs)
    (hlast : ∀ c ∈ cs.getLast?, isBlank c = false) : ∀ c ∈ rest.getLast?, isBlank c = false := by
  intro c hc
  have hne : rest ≠ [] := by
    rintro rfl
    cases hc
  refine hlast c ?_
  rw [List.getLast?_eq_some_getLast (h.ne_nil hne), ← h.getLast hne]
  rwa [List.getLast?_eq_some_getLast hne] at hc

/-- The lexemes of a text without blanks at its end look as their kinds
say. -/
theorem isLexeme_of_mem_segments {cs : List Char}
    (hlast : ∀ c ∈ cs.getLast?, isBlank c = false) {kind : TokenKind} {text : List Char}
    (h : .lexeme kind text ∈ segments cs) : IsLexeme kind text := by
  fun_induction segments cs generalizing kind text with
  | case1 => cases h
  | case2 c rest tail hword =>
    rcases List.mem_cons.mp h with h | h
    · injection h with hkind htext
      subst hkind htext
      exact ⟨.join, rfl, map_upper_take_of_dropWord? hword⟩
    · obtain ⟨rfl, htext, hne⟩ := mem_afterJoin h
      have htail : tail <:+ c :: rest := ⟨_, append_of_dropWord? hword⟩
      subst htext
      refine ⟨hne, ⟨Text.head_trimStart tail, ?_⟩⟩
      exact last_of_suffix ((List.dropWhile_suffix isBlank).trans htail) hlast
  | case3 c rest hno tail hword =>
    rcases List.mem_cons.mp h with h | h
    · injection h with hkind htext
      subst hkind htext
      exact ⟨.turn, rfl, map_upper_take_of_dropWord? hword⟩
    · cases tail with
      | nil => cases h
      | cons d tail => simp [afterTurn] at h
  | case4 c rest hnoJoin hnoTurn letter hletter ih =>
    rcases List.mem_cons.mp h with h | h
    · injection h with hkind htext
      subst hkind htext
      exact isLexeme_of_letterKind? hletter
    · exact ih (last_of_suffix (List.suffix_cons c rest) hlast) h
  | case5 c rest hnoJoin hnoTurn hletter hdigit ih =>
    have ih : ∀ {k t}, .lexeme k t ∈ segments rest → IsLexeme k t :=
      ih (last_of_suffix (List.suffix_cons c rest) hlast)
    rcases mem_consDigit h with ⟨rfl, rfl | ⟨ds, hds, rfl⟩⟩ | h
    · exact ⟨List.cons_ne_nil _ _, by simpa using hdigit⟩
    · refine ⟨List.cons_ne_nil _ _, fun d hd => ?_⟩
      rcases List.mem_cons.mp hd with rfl | hd
      · exact hdigit
      · exact (ih hds).2 d hd
    · exact ih h
  | case6 c rest hnoJoin hnoTurn hletter hdigit hblank ih =>
    rcases List.mem_cons.mp h with h | h
    · cases h
    · exact ih (last_of_suffix (List.suffix_cons c rest) hlast) h
  | case7 c rest hnoJoin hnoTurn hletter hdigit hblank ih =>
    rcases List.mem_cons.mp h with h | h
    · injection h with hkind htext
      subst hkind htext
      exact ⟨c, rfl⟩
    · exact ih (last_of_suffix (List.suffix_cons c rest) hlast) h

end Segment

/-! ## Tokens -/

namespace Token

/-- The token has a text of its kind, and does not mark the end of a
line. -/
def Sound (t : Token) : Prop :=
  match t.kind with
  | .number => t.text.toList ≠ [] ∧ ∀ c ∈ t.text.toList, isDigit c = true
  | .joinText => t.text ≠ "" ∧ trimmed t.text = t.text
  | .unknown => ∃ c, t.text.toList = [upper c]
  | .endOfInput => False
  | kind => ∃ s : Sign, s.kind = kind ∧ t.text.toList = s.letters

theorem Sound.isEnd {t : Token} (h : t.Sound) : t.isEnd = false := by
  obtain ⟨kind, text, offset⟩ := t
  cases kind with
  | endOfInput => exact h.elim
  | _ => rfl

theorem Sound.digits {t : Token} (h : t.Sound) (hkind : t.kind = .number) :
    t.text.toList ≠ [] ∧ ∀ c ∈ t.text.toList, isDigit c = true := by
  rw [Sound, hkind] at h
  exact h

theorem Sound.free {t : Token} (h : t.Sound) (hkind : t.kind = .joinText) :
    t.text ≠ "" ∧ trimmed t.text = t.text := by
  rw [Sound, hkind] at h
  exact h

/-- Capitals do not change what a lexeme is. -/
theorem sound_of_isLexeme {kind : TokenKind} {cs : List Char} (h : IsLexeme kind cs)
    (offset : Nat) : Sound ⟨kind, spelling kind cs, offset⟩ := by
  cases kind with
  | number =>
    have hdigits : cs.map upper = cs := Text.map_upper_of_isDigit h.2
    simpa [Sound, spelling, hdigits, IsLexeme] using h
  | joinText =>
    obtain ⟨hne, hends⟩ := h
    refine ⟨?_, Text.trimmed_eq_self_iff.mpr ?_⟩
    · simpa [spelling] using hne
    · simpa [spelling] using hends
  | unknown =>
    obtain ⟨c, rfl⟩ := h
    exact ⟨c, by simp [spelling]⟩
  | endOfInput => exact h.elim
  | _ =>
    obtain ⟨s, hs, htext⟩ := h
    exact ⟨s, hs, by simpa [spelling] using htext⟩

/-- The tokens of segments are their lexemes in order, then the end
marker. -/
theorem exists_sound_ofSegments :
    ∀ (segs : List Segment) (offset : Nat),
      (∀ kind cs, .lexeme kind cs ∈ segs → IsLexeme kind cs) →
      ∃ words stop, ofSegments offset segs = words ++ [atEnd stop] ∧ ∀ t ∈ words, t.Sound
  | [], offset, _ => ⟨[], offset, rfl, by simp⟩
  | .lexeme kind cs :: segs, offset, h => by
      obtain ⟨words, stop, hwords, hsound⟩ :=
        exists_sound_ofSegments segs (offset + byteLength cs)
          fun k t ht => h k t (List.mem_cons_of_mem _ ht)
      refine ⟨⟨kind, spelling kind cs, offset⟩ :: words, stop, by simp [ofSegments, hwords], ?_⟩
      intro t ht
      rcases List.mem_cons.mp ht with rfl | ht
      · exact sound_of_isLexeme (h kind cs List.mem_cons_self) offset
      · exact hsound t ht
  | .space c :: segs, offset, h =>
      exists_sound_ofSegments segs _ fun k t ht => h k t (List.mem_cons_of_mem _ ht)
  | .unread cs :: segs, offset, h =>
      exists_sound_ofSegments segs _ fun k t ht => h k t (List.mem_cons_of_mem _ ht)

/-- Every token but the end marker is a lexeme among the segments. -/
theorem exists_of_mem_ofSegments {t : Token} {segs : List Segment} {offset : Nat}
    (h : t ∈ ofSegments offset segs) (hend : t.isEnd = false) :
    ∃ cs, .lexeme t.kind cs ∈ segs ∧ t.text = spelling t.kind cs := by
  fun_induction ofSegments offset segs with
  | case1 offset =>
    rw [List.mem_singleton.mp h] at hend
    cases hend
  | case2 offset kind cs rest ih =>
    rcases List.mem_cons.mp h with rfl | h
    · exact ⟨cs, List.mem_cons_self, rfl⟩
    · obtain ⟨ds, hds, htext⟩ := ih h
      exact ⟨ds, List.mem_cons_of_mem _ hds, htext⟩
  | case3 offset s rest hno ih =>
    obtain ⟨ds, hds, htext⟩ := ih h
    exact ⟨ds, List.mem_cons_of_mem _ hds, htext⟩

/-- Every lexeme among the segments is a token. -/
theorem exists_token_of_lexeme {kind : TokenKind} {cs : List Char} {segs : List Segment}
    (h : .lexeme kind cs ∈ segs) (offset : Nat) :
    ∃ t ∈ ofSegments offset segs, t.kind = kind := by
  fun_induction ofSegments offset segs with
  | case1 => cases h
  | case2 offset k ds rest ih =>
    rcases List.mem_cons.mp h with h | h
    · injection h with hkind
      exact ⟨_, List.mem_cons_self, hkind.symm⟩
    · obtain ⟨t, ht, hkind⟩ := ih h
      exact ⟨t, List.mem_cons_of_mem _ ht, hkind⟩
  | case3 offset s rest hno ih =>
    rcases List.mem_cons.mp h with rfl | h
    · exact absurd rfl (hno kind cs)
    · exact ih h

end Token

/-- The tokens of a line without the end marker. -/
def lineTokens (line : String) : List Token :=
  (tokenize line).filter fun t => !t.isEnd

theorem tokenize_facts (line : String) :
    (∃ stop, tokenize line = lineTokens line ++ [Token.atEnd stop]) ∧
      ∀ t ∈ lineTokens line, t.Sound := by
  obtain ⟨words, stop, hwords, hsound⟩ :=
    Token.exists_sound_ofSegments (Segment.segments (Text.trim line.toList)) 0
      fun _ _ h => Segment.isLexeme_of_mem_segments (Text.bareEnds_trim line.toList).last h
  have hline : lineTokens line = words := by
    have hkeep : words.filter (fun t => !t.isEnd) = words :=
      List.filter_eq_self.mpr fun t ht => by simp [(hsound t ht).isEnd]
    rw [lineTokens, tokenize, hwords, List.filter_append, hkeep]
    exact List.append_nil words
  exact ⟨⟨stop, hline ▸ hwords⟩, hline ▸ hsound⟩

/-- One end marker closes the tokens of a line, and there is no other. -/
theorem exists_tokenize_eq (line : String) :
    ∃ stop, tokenize line = lineTokens line ++ [Token.atEnd stop] :=
  (tokenize_facts line).1

theorem sound_of_mem_lineTokens {line : String} {t : Token} (h : t ∈ lineTokens line) : t.Sound :=
  (tokenize_facts line).2 t h

end FleetOrders
