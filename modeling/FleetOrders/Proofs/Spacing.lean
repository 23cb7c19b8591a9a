/-
FleetOrders.Proofs.Spacing — blanks between the tokens of a line.

Blanks may be put anywhere but inside a token, and but between a mark and its
number: a mark is one because a digit follows it at once. Elsewhere they
change the places of tokens and nothing else.

A line is cut at the place where the blanks go. The text before that place
is followed through the segments of the line (`Between`), and each segment
that ends before it is cut off again when the blanks stand there: what stands
behind a token decides nothing about it but whether a letter is a mark,
whether a number goes on, and whether a word is spelled to its end, and a
blank is no digit and no letter.

* `Gap` — a byte of a line where blanks may be put.
* `Segment.between_of_clears` — such a byte lies between segments.
* `Segment.keepsLexemes_of_between` — there blanks leave the lexemes as they are.
* `sameTokens_insert` — so they leave the tokens as they are, up to places.
* `Snapshot.analyze_of_trim` — blanks around a line decide nothing at all.
* `feedback_of_blanks` — all of it, about lines.
-/
import FleetOrders.Proofs.Cutting
import FleetOrders.Proofs.LetterCase
import FleetOrders.Proofs.Placing

namespace FleetOrders

open Text (isBlank isDigit upper dropWord? trim trimStart trimEnd trimmed)

/-! ## Where blanks may be put -/

/-- The place does not lie inside the token, nor right behind it if it is a
mark. The token's own place counts from `start`. -/
def Token.Clears (t : Token) (start place : Nat) : Prop :=
  ¬ (start + t.offset < place ∧ place < start + t.stop) ∧
    (t.kind.IsMark → place ≠ start + t.stop)

instance (t : Token) (start place : Nat) : Decidable (t.Clears start place) :=
  inferInstanceAs (Decidable (_ ∧ _))

/-- The byte of the line from which its tokens count their places. -/
def indent (line : String) : Nat :=
  byteLength (line.toList.takeWhile isBlank)

/-- Blanks may be put at the byte of the line: it lies inside no token, nor
between a mark and its number. -/
def Gap (line : String) (place : Nat) : Prop :=
  ∀ t ∈ tokenize line, t.Clears (indent line) place

instance (line : String) (place : Nat) : Decidable (Gap line place) :=
  inferInstanceAs (Decidable (∀ t ∈ _, _))

namespace Segment

/-! ## Lexemes among segments -/

/-- The lexeme, if the segment is one. -/
def lexeme? : Segment → Option (TokenKind × List Char)
  | .lexeme kind cs => some (kind, cs)
  | _ => none

/-- The lexemes among segments. -/
def lexemes (segs : List Segment) : List (TokenKind × List Char) :=
  segs.filterMap lexeme?

@[simp] theorem lexemes_lexeme (kind : TokenKind) (cs : List Char) (more : List Segment) :
    lexemes (.lexeme kind cs :: more) = (kind, cs) :: lexemes more := rfl

@[simp] theorem lexemes_space (c : Char) (more : List Segment) :
    lexemes (.space c :: more) = lexemes more := rfl

theorem lexemes_afterTurn (tail : List Char) : lexemes (afterTurn tail) = [] := by
  cases tail <;> rfl

/-! ## Segments before a place -/

/-- The text ends between segments, or in what is not read. No mark is the
last segment before its end. -/
def Between : List Segment → List Char → Prop
  | [], _ => True
  | .lexeme kind cs :: more, before =>
    before = [] ∨ ∃ rest, before = cs ++ rest ∧ (kind.IsMark → rest ≠ []) ∧ Between more rest
  | .space c :: more, before => before = [] ∨ ∃ rest, before = c :: rest ∧ Between more rest
  | .unread _ :: _, _ => True

/-- Past its first segment the text goes on between the others. -/
theorem Between.past {kind : TokenKind} {cs before after tail : List Char} {more : List Segment}
    (h : Between (.lexeme kind cs :: more) before) (htext : before ++ after = cs ++ tail) :
    before = [] ∨ ∃ rest, before = cs ++ rest ∧ tail = rest ++ after ∧
      (kind.IsMark → rest ≠ []) ∧ Between more rest := by
  obtain hnil | ⟨rest, rfl, hmark, hmore⟩ := h
  · exact .inl hnil
  · rw [List.append_assoc] at htext
    exact .inr ⟨rest, rfl, (List.append_cancel_left htext).symm, hmark, hmore⟩

/-- A place that clears all tokens lies between segments. -/
theorem between_of_clears {segs : List Segment} {before after : List Char}
    (htext : segs.flatMap text = before ++ after) (start offset : Nat)
    (h : ∀ t ∈ Token.ofSegments offset segs,
      t.Clears start (start + offset + byteLength before)) : Between segs before := by
  induction segs generalizing before offset with
  | nil => trivial
  | cons s more ih =>
    cases s with
    | unread cs => trivial
    | space c =>
      cases before with
      | nil => exact .inl rfl
      | cons d before =>
        rw [List.flatMap_cons, text, List.singleton_append, List.cons_append,
          List.cons.injEq] at htext
        obtain ⟨rfl, htext⟩ := htext
        refine .inr ⟨before, rfl, ih htext (offset + byteLength [c]) fun t ht => ?_⟩
        have hplace : start + offset + byteLength (c :: before) =
            start + (offset + byteLength [c]) + byteLength before := by
          simp only [byteLength]
          omega
        rw [← hplace]
        exact h t ht
    | lexeme kind cs =>
      rw [List.flatMap_cons, text] at htext
      have hhead := h _ List.mem_cons_self
      simp only [Token.Clears, Token.stop, Token.utf8ByteSize_spelling] at hhead
      by_cases hbefore : before = []
      · exact .inl hbefore
      · -- a lexeme that starts before the place ends there or before it
        have hends : ∃ rest, before = cs ++ rest ∧ more.flatMap text = rest ++ after := by
          obtain h | ⟨extra, hcs, hafter⟩ := List.append_eq_append_iff.mp htext
          · exact h
          · have hstarts : byteLength before ≠ 0 := mt byteLength_eq_zero_iff.mp hbefore
            have hbytes : byteLength cs = byteLength before + byteLength extra := by
              rw [hcs, byteLength_append]
            obtain rfl : extra = [] := byteLength_eq_zero_iff.mp (by omega)
            exact ⟨[], by simp [hcs], by simpa using hafter.symm⟩
        obtain ⟨rest, rfl, hmore⟩ := hends
        have hplace : start + offset + byteLength (cs ++ rest) =
            start + (offset + byteLength cs) + byteLength rest := by
          rw [byteLength_append]
          omega
        refine .inr ⟨rest, rfl, fun hmark => ?_, ih hmore (offset + byteLength cs) fun t ht => ?_⟩
        · rintro rfl
          exact hhead.2 hmark (by rw [hplace]; simp [byteLength])
        · rw [← hplace]
          exact h t (List.mem_cons_of_mem _ ht)

/-! ## Blanks among lexemes -/

theorem letterKind?_of_not_mark {c : Char} {next : Option Char} {kind : TokenKind}
    (h : letterKind? c next = some kind) (hmark : ¬ kind.IsMark) (next' : Option Char) :
    letterKind? c next' = some kind := by
  unfold letterKind? at h ⊢
  split at h
  · split at h <;> cases h
    exact absurd (.inl rfl) hmark
  · split at h <;> cases h
    exact absurd (.inr rfl) hmark
  · exact h
  · exact h
  · exact h
  · exact h
  · exact h
  · exact h

/-- A letter that is no token alone is none before a character that is no
digit. -/
theorem letterKind?_eq_none {c : Char} {next : Option Char} (h : letterKind? c next = none)
    {next' : Option Char} (hnext : next'.any isDigit = false) : letterKind? c next' = none := by
  unfold letterKind? at h ⊢
  split at h <;> simp_all

/-- Between the two texts, blanks leave the lexemes as they are. -/
def KeepsLexemes (before blanks after : List Char) : Prop :=
  lexemes (segments (before ++ (blanks ++ after))) = lexemes (segments (before ++ after))

section Insert

variable {blanks after : List Char} (hblanks : ∀ c ∈ blanks, isBlank c = true)
include hblanks

theorem keepsLexemes_nil : KeepsLexemes [] blanks after := by
  unfold KeepsLexemes
  induction blanks with
  | nil => rfl
  | cons c blanks ih =>
    rw [List.nil_append, List.cons_append, segments_blank (hblanks c List.mem_cons_self),
      lexemes_space]
    exact ih fun d hd => hblanks d (List.mem_cons_of_mem c hd)

/-- The free text after `JOIN` stands behind all blanks, however many. -/
theorem lexemes_afterJoin_insert (hafter : after ≠ []) {before : List Char}
    (h : Between (afterJoin (before ++ after)) before) :
    lexemes (afterJoin (before ++ (blanks ++ after))) = lexemes (afterJoin (before ++ after)) := by
  have hspace : ∀ {c : Char} (_ : isBlank c = true) (tail : List Char),
      afterJoin (c :: tail) = .space c :: afterJoin tail := by
    intro c hc tail
    simp [afterJoin, hc]
  induction before with
  | nil =>
    induction blanks with
    | nil => rfl
    | cons c blanks ih =>
      rw [List.nil_append, List.cons_append, hspace (hblanks c List.mem_cons_self), lexemes_space]
      exact ih fun d hd => hblanks d (List.mem_cons_of_mem c hd)
  | cons c before ih =>
    rw [List.cons_append] at h ⊢
    by_cases hc : isBlank c = true
    · rw [hspace hc] at h
      obtain hnil | ⟨rest, hrest, hbetween⟩ := h
      · cases hnil
      · obtain ⟨-, rfl⟩ := List.cons.inj hrest
        rw [List.cons_append, hspace hc, hspace hc, lexemes_space, lexemes_space, ih hbetween]
    · -- the free text reaches to the end of the line
      have hfree : afterJoin (c :: (before ++ after)) =
          [.lexeme .joinText (c :: (before ++ after))] := by
        simp [afterJoin, hc]
      rw [hfree] at h
      obtain hnil | ⟨rest, hrest, -⟩ := h
      · cases hnil
      · have hlength := congrArg List.length hrest
        have hpos := List.length_pos_iff.mpr hafter
        simp only [List.length_cons, List.length_append] at hlength
        omega

theorem keepsLexemes_join (hafter : after ≠ []) {head rest : List Char}
    (hhead : head.map upper = ['J', 'O', 'I', 'N'])
    (h : Between (afterJoin (rest ++ after)) rest) : KeepsLexemes (head ++ rest) blanks after := by
  rw [KeepsLexemes, List.append_assoc, List.append_assoc, segments_join_append hhead,
    segments_join_append hhead, lexemes_lexeme, lexemes_lexeme,
    lexemes_afterJoin_insert hblanks hafter h]

omit hblanks in
theorem keepsLexemes_turn {head : List Char} (hhead : head.map upper = ['T', 'U', 'R', 'N'])
    (rest : List Char) : KeepsLexemes (head ++ rest) blanks after := by
  rw [KeepsLexemes, List.append_assoc, List.append_assoc, segments_turn_append hhead,
    segments_turn_append hhead, lexemes_lexeme, lexemes_lexeme, lexemes_afterTurn,
    lexemes_afterTurn]

omit hblanks in
theorem keepsLexemes_blank {c : Char} (hc : isBlank c = true) {rest : List Char}
    (h : KeepsLexemes rest blanks after) : KeepsLexemes (c :: rest) blanks after := by
  rw [KeepsLexemes, List.cons_append, List.cons_append, segments_blank hc, segments_blank hc,
    lexemes_space, lexemes_space, h]

variable (hne : blanks ≠ [])
include hne

/-- A word that does not stand in a text does not come to stand there by
blanks. -/
theorem dropWord?_insert (before : List Char) {word : List Char}
    (hword : word.any isBlank = false)
    (h : dropWord? word (before ++ after) = none) :
    dropWord? word (before ++ (blanks ++ after)) = none := by
  induction word generalizing before with
  | nil => cases h
  | cons w word ih =>
    rw [List.any_cons, Bool.or_eq_false_iff] at hword
    cases before with
    | nil =>
      obtain ⟨b, blanks, rfl⟩ := List.exists_cons_of_ne_nil hne
      have hb := hblanks b List.mem_cons_self
      exact dropWord?_of_ne (upper_ne_of_isBlank hword.1 hb) _ _
    | cons c before =>
      rw [List.cons_append, dropWord?] at h ⊢
      split
      · next hsame =>
        rw [if_pos hsame] at h
        exact ih before hword.2 h
      · rfl

/-- Nor does one of the two words that are read as a whole. -/
theorem words_insert (before : List Char)
    (hjoin : dropWord? ['J', 'O', 'I', 'N'] (before ++ after) = none)
    (hturn : dropWord? ['T', 'U', 'R', 'N'] (before ++ after) = none) :
    dropWord? ['J', 'O', 'I', 'N'] (before ++ (blanks ++ after)) = none ∧
      dropWord? ['T', 'U', 'R', 'N'] (before ++ (blanks ++ after)) = none :=
  ⟨dropWord?_insert hblanks hne before (by decide) hjoin,
    dropWord?_insert hblanks hne before (by decide) hturn⟩

/-- The character behind the place is a blank, and so no digit. -/
theorem noDigitHead_insert {before : List Char} (h : NoDigitHead (before ++ after)) :
    NoDigitHead (before ++ (blanks ++ after)) := by
  cases before with
  | nil =>
    obtain ⟨b, blanks, rfl⟩ := List.exists_cons_of_ne_nil hne
    exact noDigitHead_cons (isDigit_of_isBlank (hblanks b List.mem_cons_self)) _
  | cons c before => exact noDigitHead_cons (h c rfl) _

/-- A number ends where it ended. -/
theorem keepsLexemes_number {run rest : List Char} (hrun : run ≠ [])
    (hdigits : ∀ d ∈ run, isDigit d = true) (hend : NoDigitHead (rest ++ after))
    (h : KeepsLexemes rest blanks after) : KeepsLexemes (run ++ rest) blanks after := by
  rw [KeepsLexemes, List.append_assoc, List.append_assoc,
    segments_digits hrun hdigits (noDigitHead_insert hblanks hne hend),
    segments_digits hrun hdigits hend, lexemes_lexeme, lexemes_lexeme, h]

section Letter

variable {c : Char} {rest : List Char}
  (hjoin : dropWord? ['J', 'O', 'I', 'N'] (c :: (rest ++ after)) = none)
  (hturn : dropWord? ['T', 'U', 'R', 'N'] (c :: (rest ++ after)) = none)
  (h : KeepsLexemes rest blanks after)
include hjoin hturn h

/-- A letter is the sign that it was. Of a mark the next character is not
a blank that was put there. -/
theorem keepsLexemes_sign {kind : TokenKind}
    (hkind : letterKind? c (rest ++ after).head? = some kind) (hmark : kind.IsMark → rest ≠ []) :
    KeepsLexemes (c :: rest) blanks after := by
  have hkind' : letterKind? c (rest ++ (blanks ++ after)).head? = some kind := by
    cases rest with
    | nil => exact letterKind?_of_not_mark hkind (fun hkinds => hmark hkinds rfl) _
    | cons d rest => exact hkind
  obtain ⟨hjoin', hturn'⟩ := words_insert hblanks hne (c :: rest) hjoin hturn
  rw [List.cons_append] at hjoin' hturn'
  rw [KeepsLexemes, List.cons_append, List.cons_append, segments_letter hjoin hturn hkind,
    segments_letter hjoin' hturn' hkind', lexemes_lexeme, lexemes_lexeme, h]

/-- What was unknown stays unknown: no blank makes a letter a mark. -/
theorem keepsLexemes_unknown (hkind : letterKind? c (rest ++ after).head? = none)
    (hdigit : isDigit c = false) (hblank : isBlank c = false) :
    KeepsLexemes (c :: rest) blanks after := by
  have hkind' : letterKind? c (rest ++ (blanks ++ after)).head? = none := by
    cases rest with
    | nil =>
      obtain ⟨b, blanks, rfl⟩ := List.exists_cons_of_ne_nil hne
      exact letterKind?_eq_none hkind (isDigit_of_isBlank (hblanks b List.mem_cons_self))
    | cons d rest => exact hkind
  obtain ⟨hjoin', hturn'⟩ := words_insert hblanks hne (c :: rest) hjoin hturn
  rw [List.cons_append] at hjoin' hturn'
  rw [KeepsLexemes, List.cons_append, List.cons_append,
    segments_unknown hjoin hturn hkind hdigit hblank,
    segments_unknown hjoin' hturn' hkind' hdigit hblank, lexemes_lexeme, lexemes_lexeme, h]

end Letter

/-- Blanks between segments leave the lexemes as they are. The induction is
on how the text is cut, and follows the text before the blanks through it. -/
theorem keepsLexemes_of_between (hafter : after ≠ []) {before : List Char}
    (h : Between (segments (before ++ after)) before) : KeepsLexemes before blanks after := by
  have hcut := cut_segments (before ++ after)
  generalize htext : before ++ after = cs at hcut
  rw [htext] at h
  generalize segments cs = segs at hcut h
  induction hcut generalizing before with
  | nil => exact absurd (List.append_eq_nil_iff.mp htext).2 hafter
  | join hhead tail =>
    obtain rfl | ⟨rest, rfl, rfl, -, hmore⟩ := h.past htext
    · exact keepsLexemes_nil hblanks
    · exact keepsLexemes_join hblanks hafter hhead hmore
  | turn hhead tail =>
    obtain rfl | ⟨rest, rfl, -⟩ := h.past htext
    · exact keepsLexemes_nil hblanks
    · exact keepsLexemes_turn hhead rest
  | letter hjoin hturn hkind _ ih =>
    obtain rfl | ⟨rest, rfl, rfl, hmark, hmore⟩ := h.past htext
    · exact keepsLexemes_nil hblanks
    · exact keepsLexemes_sign hblanks hne hjoin hturn (ih rfl hmore) hkind hmark
  | number hrun hdigits hend _ ih =>
    obtain rfl | ⟨rest, rfl, rfl, -, hmore⟩ := h.past htext
    · exact keepsLexemes_nil hblanks
    · exact keepsLexemes_number hblanks hne hrun hdigits hend (ih rfl hmore)
  | blank hblank _ ih =>
    obtain rfl | ⟨rest, rfl, hmore⟩ := h
    · exact keepsLexemes_nil hblanks
    · exact keepsLexemes_blank hblank (ih (List.cons.inj htext).2 hmore)
  | unknown hjoin hturn hkind hdigit hblank _ ih =>
    obtain rfl | ⟨rest, rfl, rfl, -, hmore⟩ := h.past htext
    · exact keepsLexemes_nil hblanks
    · exact keepsLexemes_unknown hblanks hne hjoin hturn (ih rfl hmore) hkind hdigit hblank

end Insert

end Segment

/-! ## Tokens -/

/-- Without their places, the tokens of segments are the lexemes among them
and the end marker. -/
theorem Token.map_unplaced_ofSegments (offset : Nat) (segs : List Segment) :
    (ofSegments offset segs).map unplaced =
      (Segment.lexemes segs).map (fun l => ⟨l.1, spelling l.1 l.2, 0⟩) ++ [atEnd 0] := by
  induction segs generalizing offset with
  | nil => rfl
  | cons s more ih =>
    cases s with
    | lexeme kind cs =>
      rw [ofSegments, List.map_cons, ih]
      rfl
    | space c => exact ih _
    | unread cs => exact ih _

theorem tokenize_of_trim {a b : String} (h : trim a.toList = trim b.toList) :
    tokenize a = tokenize b := by
  rw [tokenize, tokenize, h]

/-- Where a line is cut behind more than blanks, its first token stands in
front of the cut. -/
theorem utf8ByteSize_of_indent {before : String} (h : trimStart before.toList ≠ [])
    (after : String) :
    before.utf8ByteSize = indent (before ++ after) + byteLength (trimStart before.toList) := by
  have hlead : (before.toList ++ after.toList).takeWhile isBlank =
      before.toList.takeWhile isBlank := by
    rw [List.takeWhile_append, if_neg]
    intro hlength
    have hall : before.toList.takeWhile isBlank = before.toList :=
      (List.takeWhile_prefix isBlank).eq_of_length hlength
    exact h (Text.trimStart_eq_nil_iff.mpr (List.takeWhile_eq_self_iff.mp hall))
  rw [indent, String.toList_append, hlead, ← byteLength_append, trimStart,
    List.takeWhile_append_dropWhile, utf8ByteSize_eq_byteLength]

section Blanks

variable {blanks : String} (hblanks : ∀ c ∈ blanks.toList, isBlank c = true)
include hblanks

theorem trim_blanks (line : String) :
    trim (blanks ++ line).toList = trim line.toList ∧
      trim (line ++ blanks).toList = trim line.toList := by
  rw [String.toList_append, String.toList_append]
  exact ⟨Text.trim_blanks_append hblanks _, Text.trim_append_blanks hblanks _⟩

/-- Blanks in a gap of a line leave its tokens as they are, but for their
places. -/
theorem sameTokens_insert {before after : String}
    (hgap : Gap (before ++ after) before.utf8ByteSize) :
    SameTokens (before ++ after) (before ++ blanks ++ after) := by
  unfold SameTokens
  by_cases hbefore : trimStart before.toList = []
  · -- the blanks stand before the first token
    have hlead := Text.trimStart_eq_nil_iff.mp hbefore
    refine congrArg (List.map Token.unplaced) (tokenize_of_trim ?_)
    rw [String.toList_append, String.toList_append, String.toList_append, List.append_assoc,
      Text.trim_blanks_append hlead, Text.trim_blanks_append hlead,
      Text.trim_blanks_append hblanks]
  by_cases hafter : trimEnd after.toList = []
  · -- the blanks stand behind the last token
    have htail := Text.trimEnd_eq_nil_iff.mp hafter
    refine congrArg (List.map Token.unplaced) (tokenize_of_trim ?_)
    rw [String.toList_append, String.toList_append, String.toList_append,
      Text.trim_append_blanks htail, Text.trim_append_blanks htail,
      Text.trim_append_blanks hblanks]
  by_cases hnone : blanks.toList = []
  · rw [String.toList_eq_nil_iff.mp hnone, String.append_empty]
  have htrim : trim (before ++ after).toList = trimStart before.toList ++ trimEnd after.toList := by
    rw [String.toList_append, Text.trim_append hbefore hafter]
  have htrim' : trim (before ++ blanks ++ after).toList =
      trimStart before.toList ++ (blanks.toList ++ trimEnd after.toList) := by
    have hback := Text.trimEnd_append hafter blanks.toList
    have hne : trimEnd (blanks.toList ++ after.toList) ≠ [] := by simp [hback, hafter]
    rw [String.toList_append, String.toList_append, List.append_assoc,
      Text.trim_append hbefore hne, hback]
  rw [Gap, utf8ByteSize_of_indent hbefore after, tokenize, htrim] at hgap
  have hbetween := Segment.between_of_clears (Segment.text_segments _) _ 0 hgap
  rw [tokenize, tokenize, htrim, htrim', Token.map_unplaced_ofSegments,
    Token.map_unplaced_ofSegments, Segment.keepsLexemes_of_between hblanks hnone hafter hbetween]

end Blanks

namespace Snapshot

variable (s : Snapshot) {a b : String}

/-- Blanks around a line decide nothing at all. -/
theorem analyze_of_trim (h : trim a.toList = trim b.toList) (limit : Nat) :
    s.analyze limit a = s.analyze limit b := by
  refine s.analyze_of_tokens (tokenize_of_trim h) ?_ limit
  simp only [matching, trimmed, h]

end Snapshot

/-- Blanks between the tokens of a line change the places of tokens and of
errors. The readings are the same otherwise, and so is every verdict; and if
the line starts an order, the suggestions are the same. Blanks around a line
change nothing. -/
theorem feedback_of_blanks {blanks : String} (hblanks : ∀ c ∈ blanks.toList, isBlank c = true) :
    (∀ before after : String, Gap (before ++ after) before.utf8ByteSize →
      let line := before ++ after
      let spaced := before ++ blanks ++ after
      SameTokens line spaced ∧
        (Reading.live line).unplaced = (Reading.live spaced).unplaced ∧
        (Reading.final line).unplaced = (Reading.final spaced).unplaced ∧
        (∀ (s : Snapshot) (mode : Mode),
          assess s mode (Reading.live line).command =
            assess s mode (Reading.live spaced).command) ∧
        ∀ (s : Snapshot) (limit : Nat),
          (s.analyze limit line).verdict = (s.analyze limit spaced).verdict ∧
            ((Reading.live line).stage ≠ .unknown →
              (s.analyze limit line).suggestions = (s.analyze limit spaced).suggestions)) ∧
      ∀ (line : String) (s : Snapshot) (limit : Nat),
        s.analyze limit (blanks ++ line) = s.analyze limit line ∧
          s.analyze limit (line ++ blanks) = s.analyze limit line := by
  refine ⟨fun before after hgap => ?_, fun line s limit => ?_⟩
  · have h := sameTokens_insert hblanks hgap
    have hverdict : ∀ (s : Snapshot) (mode : Mode),
        assess s mode (Reading.live (before ++ after)).command =
          assess s mode (Reading.live (before ++ blanks ++ after)).command :=
      fun s mode => congrArg (assess s mode) h.command
    exact ⟨h, h.live, h.final, hverdict, fun s limit => ⟨hverdict s .live, h.suggestions s limit⟩⟩
  · obtain ⟨hfront, hback⟩ := trim_blanks hblanks line
    exact ⟨s.analyze_of_trim hfront limit, s.analyze_of_trim hback limit⟩

/-- Two kinds of blanks between a fleet and a world, and around the line. -/
theorem feedback_of_blanks_demo :
    (∀ c ∈ "\u3000\t".toList, isBlank c = true) ∧
      Gap (" f1" ++ "w2") " f1".utf8ByteSize ∧
      ¬ Gap (" f1" ++ "w2") " f".utf8ByteSize ∧
      (Reading.live (" f1" ++ "w2")).command = some (.move ⟨1⟩ [⟨2⟩]) ∧
      SameTokens (" f1" ++ "w2") (" f1" ++ "\u3000\t" ++ "w2") ∧
      (∀ (s : Snapshot) (limit : Nat),
        (s.analyze limit (" f1" ++ "w2")).suggestions =
          (s.analyze limit (" f1" ++ "\u3000\t" ++ "w2")).suggestions) ∧
      ∀ (s : Snapshot) (limit : Nat),
        s.analyze limit ("\u3000\t" ++ "f1w2") = s.analyze limit "f1w2" := by
  have hblanks : ∀ c ∈ "\u3000\t".toList, isBlank c = true :=
    List.all_eq_true.mp (by decide)
  have hgap : Gap (" f1" ++ "w2") " f1".utf8ByteSize := by decide
  have hbetween := (feedback_of_blanks hblanks).1 " f1" "w2" hgap
  exact ⟨hblanks, hgap, by decide, by decide, hbetween.1,
    fun s limit => (hbetween.2.2.2.2 s limit).2 (by decide),
    fun s limit => ((feedback_of_blanks hblanks).2 "f1w2" s limit).1⟩

end FleetOrders
