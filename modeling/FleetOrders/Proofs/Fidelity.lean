/-
FleetOrders.Proofs.Fidelity — what is sent is what was typed.

A line that is accepted for sending is sent in canonical text. For an order
to a fleet or a world that text is the line itself, but for blanks, the case
of its letters and leading zeros:

* `trimZeros` — leading zeros, dropped from every run of digits of a text;
  `Apart.trimZeros_of_spells` says that this makes a spelled text canonical.
* `capitals_of_segments` — the characters of a line that are not blank are
  the texts of its tokens in a row, when nothing is unread and there is no
  free text.
* `exists_word_of_first` — a line whose first token is `JOIN` or `TURN` starts
  with that word.

`Reading.wire_says_what_was_typed` puts them together.
-/
import FleetOrders.Proofs.Cutting
import FleetOrders.Proofs.Retyping
import FleetOrders.Proofs.WireRoundTrip
import Mathlib.Data.List.Induction
import Mathlib.Data.List.TakeWhile

namespace FleetOrders

open Text (isBlank isDigit upper dropWord? digits numeral word32?)

/-! ## Leading zeros -/

namespace Text

/-- The text without the superfluous zeros at the head of each run of
digits: a zero goes when a digit follows it and no digit that stays stands
right before it. The flag says that one does. -/
def trimZeros (inRun : Bool) : List Char → List Char
  | [] => []
  | c :: rest =>
    if !inRun && c == '0' && rest.head?.any isDigit then trimZeros false rest
    else c :: trimZeros (isDigit c) rest

/-- A character that is no digit stays, and ends a run. -/
theorem trimZeros_of_not_isDigit {c : Char} (hc : isDigit c = false) (inRun : Bool)
    (rest : List Char) : trimZeros inRun (c :: rest) = c :: trimZeros false rest := by
  have hzero : (c == '0') = false := by
    rw [beq_eq_false_iff_ne]
    rintro rfl
    exact absurd hc (by decide)
  simp [trimZeros, hzero, hc]

/-- After a run of digits it does not matter that there was one. -/
theorem trimZeros_true {rest : List Char} (h : Segment.NoDigitHead rest) :
    trimZeros true rest = trimZeros false rest := by
  cases rest with
  | nil => rfl
  | cons c rest =>
    rw [trimZeros_of_not_isDigit (h c rfl), trimZeros_of_not_isDigit (h c rfl)]

/-- Within a run every digit stays. -/
theorem trimZeros_true_append {ds : List Char} (hds : ∀ c ∈ ds, isDigit c = true)
    (rest : List Char) : trimZeros true (ds ++ rest) = ds ++ trimZeros true rest := by
  induction ds with
  | nil => rfl
  | cons d ds ih =>
    have hd := hds d List.mem_cons_self
    rw [List.cons_append, trimZeros, hd, ih fun c hc => hds c (List.mem_cons_of_mem d hc)]
    simp

theorem digitChar_digitValue {c : Char} (h : isDigit c = true) :
    digitChar (digitValue c) = c := by
  have hc := isDigit_iff.mp h
  have hvalue : '0'.toNat + digitValue c = c.toNat := by
    simp only [digitValue, Char.reduceToNat]
    omega
  rw [digitChar, hvalue, Char.ofNat_toNat]

theorem digitValue_lt {c : Char} (h : isDigit c = true) : digitValue c < 10 := by
  have hc := isDigit_iff.mp h
  simp only [digitValue, Char.reduceToNat]
  omega

theorem digitValue_pos {c : Char} (h : isDigit c = true) (hzero : c ≠ '0') :
    0 < digitValue c := by
  have hc := isDigit_iff.mp h
  have hne : c.toNat ≠ 48 := fun heq => hzero (Char.toNat_inj.mp heq)
  simp only [digitValue, Char.reduceToNat]
  omega

theorem numeral_singleton (d : Char) : numeral [d] = digitValue d := by
  simp [numeral]

theorem digits_numeral_singleton {d : Char} (hd : isDigit d = true) :
    digits (numeral [d]) = [d] := by
  rw [numeral_singleton, digits, if_pos (digitValue_lt hd), digitChar_digitValue hd]

/-- A run of digits that starts with no zero is the numeral of its
number. -/
theorem digits_numeral {d : Char} {ds : List Char} (hzero : d ≠ '0')
    (hds : ∀ c ∈ d :: ds, isDigit c = true) :
    0 < numeral (d :: ds) ∧ digits (numeral (d :: ds)) = d :: ds := by
  induction ds using List.reverseRecOn with
  | nil =>
    have hd := hds d List.mem_cons_self
    exact ⟨numeral_singleton d ▸ digitValue_pos hd hzero, digits_numeral_singleton hd⟩
  | append_singleton ds e ih =>
    have he : isDigit e = true := hds e (by simp)
    obtain ⟨hpos, hdigits⟩ := ih fun c hc => hds c (List.mem_append_left [e] hc)
    have hlt := digitValue_lt he
    have hlast : numeral (d :: (ds ++ [e])) = 10 * numeral (d :: ds) + digitValue e :=
      numeral_append_singleton (d :: ds) e
    have hdiv : (10 * numeral (d :: ds) + digitValue e) / 10 = numeral (d :: ds) := by omega
    have hmod : (10 * numeral (d :: ds) + digitValue e) % 10 = digitValue e := by omega
    rw [hlast]
    refine ⟨by omega, ?_⟩
    rw [digits, if_neg (by omega), hdiv, hmod, hdigits, digitChar_digitValue he,
      List.cons_append]

/-- A zero goes when a digit follows it. -/
theorem trimZeros_zero {e : Char} (he : isDigit e = true) (rest : List Char) :
    trimZeros false ('0' :: e :: rest) = trimZeros false (e :: rest) := by
  rw [trimZeros]
  simp [he]

/-- Any other digit stays, and so does a zero that ends its run. -/
theorem trimZeros_digit {d : Char} {rest : List Char} (hd : isDigit d = true)
    (hstay : d ≠ '0' ∨ Segment.NoDigitHead rest) :
    trimZeros false (d :: rest) = d :: trimZeros true rest := by
  have hkeep : ¬ (!false && d == '0' && rest.head?.any isDigit) = true := by
    simp only [Bool.not_false, Bool.true_and, Bool.and_eq_true, beq_iff_eq, Option.any_eq_true]
    rintro ⟨hzero, c, hc, hdigit⟩
    rcases hstay with hne | hhead
    · exact hne hzero
    · rw [hhead c hc] at hdigit
      cases hdigit
  rw [trimZeros, if_neg hkeep, hd]

/-- A run of digits is cut down to the numeral of its number. -/
theorem trimZeros_append_digits {ds rest : List Char} (hne : ds ≠ [])
    (hds : ∀ c ∈ ds, isDigit c = true) (hrest : Segment.NoDigitHead rest) :
    trimZeros false (ds ++ rest) = digits (numeral ds) ++ trimZeros false rest := by
  induction ds with
  | nil => exact absurd rfl hne
  | cons d ds ih =>
    have hd := hds d List.mem_cons_self
    have hmore : ∀ c ∈ ds, isDigit c = true := fun c hc => hds c (List.mem_cons_of_mem d hc)
    cases ds with
    | nil =>
      rw [digits_numeral_singleton hd, List.singleton_append, List.singleton_append,
        trimZeros_digit hd (.inr hrest), trimZeros_true hrest]
    | cons e es =>
      by_cases hzero : d = '0'
      · subst hzero
        have hvalue : numeral ('0' :: e :: es) = numeral (e :: es) := by
          simp [numeral, digitValue]
        rw [hvalue, ← ih (List.cons_ne_nil e es) hmore, List.cons_append, List.cons_append,
          trimZeros_zero (hmore e List.mem_cons_self)]
      · rw [(digits_numeral hzero hds).2, List.cons_append, trimZeros_digit hd (.inl hzero),
          trimZeros_true_append hmore, trimZeros_true hrest]
        rfl

theorem trimZeros_append_of_not_isDigit {cs : List Char} (h : ∀ c ∈ cs, isDigit c = false)
    (rest : List Char) : trimZeros false (cs ++ rest) = cs ++ trimZeros false rest := by
  induction cs with
  | nil => rfl
  | cons c cs ih =>
    rw [List.cons_append, trimZeros_of_not_isDigit (h c List.mem_cons_self),
      ih fun d hd => h d (List.mem_cons_of_mem c hd), List.cons_append]

theorem trimZeros_letters (s : Sign) (rest : List Char) :
    trimZeros false (s.letters ++ rest) = s.letters ++ trimZeros false rest := by
  have hall : s.letters.all (fun c => !isDigit c) = true := by cases s <;> rfl
  exact trimZeros_append_of_not_isDigit (by simpa using List.all_eq_true.mp hall) rest

end Text

/-- Without superfluous zeros a text that spells words is their canonical
text. -/
theorem Apart.trimZeros_of_spells {ws : List Word} (h : Apart ws) {cs : List Char}
    (hs : Spells ws cs) : Text.trimZeros false cs = ws.flatMap Word.chars := by
  induction h generalizing cs with
  | nil =>
    obtain rfl : cs = [] := hs
    rfl
  | lone _ _ ih =>
    obtain ⟨_, more, rfl, rfl, hmore⟩ := hs
    rw [Text.trimZeros_letters, ih hmore, List.flatMap_cons]
    rfl
  | numbered _ n hws ih =>
    obtain ⟨_, _, rfl, rfl, ds, more, rfl, hds, hmore⟩ := hs
    obtain ⟨hne, hdigits, hvalue⟩ := Text.word32?_eq_some_iff.mp hds
    rw [Text.trimZeros_letters, Text.trimZeros_append_digits hne hdigits (hws.noDigitHead hmore),
      ih hmore, hvalue, List.flatMap_cons, List.flatMap_cons]
    rfl

/-! ## The characters of a line -/

namespace Text

/-- The characters that are not blank. -/
def solid (cs : List Char) : List Char :=
  cs.filter fun c => !isBlank c

theorem solid_append (cs ds : List Char) : solid (cs ++ ds) = solid cs ++ solid ds :=
  List.filter_append ..

theorem solid_trimStart (cs : List Char) : solid (trimStart cs) = solid cs := by
  induction cs with
  | nil => rfl
  | cons c cs ih =>
    rw [trimStart, List.dropWhile_cons]
    split
    · rename_i hblank
      rw [solid, solid, List.filter_cons_of_neg (by simp [hblank])]
      exact ih
    · rfl

theorem solid_reverse (cs : List Char) : solid cs.reverse = (solid cs).reverse :=
  List.filter_reverse ..

theorem solid_trimEnd (cs : List Char) : solid (trimEnd cs) = solid cs := by
  have hflip : trimEnd cs = (trimStart cs.reverse).reverse := rfl
  rw [hflip, solid_reverse, solid_trimStart, solid_reverse, List.reverse_reverse]

/-- Trimming takes away nothing but blanks. -/
theorem solid_trim (cs : List Char) : solid (trim cs) = solid cs := by
  rw [trim, solid_trimEnd, solid_trimStart]

theorem solid_of_forall {cs : List Char} (h : ∀ c ∈ cs, isBlank c = false) : solid cs = cs :=
  List.filter_eq_self.mpr fun c hc => by simp [h c hc]

/-- No small letter is blank. -/
theorem upper_of_isBlank {c : Char} (h : isBlank c = true) : upper c = c := by
  unfold upper
  rw [if_neg]
  rintro ⟨ha, hz⟩
  have hlow : 97 ≤ c.toNat := ha
  have hhigh : c.toNat ≤ 122 := hz
  simp only [isBlank, Bool.or_eq_true, Bool.and_eq_true, decide_eq_true_eq, beq_iff_eq] at h
  omega

/-- A text is free of blanks when its capitals are. -/
theorem isBlank_of_isBlank_upper {c : Char} (h : isBlank (upper c) = false) :
    isBlank c = false := by
  rw [Bool.eq_false_iff]
  intro hblank
  rw [upper_of_isBlank hblank, hblank] at h
  cases h

end Text

namespace Segment

/-- The segments of an order to a fleet or a world: lexemes without blanks
and blanks between them. -/
def Plain : Segment → Prop
  | .lexeme kind cs => kind ≠ .joinText ∧ ∀ c ∈ cs, isBlank c = false
  | .space c => isBlank c = true
  | .unread _ => False

/-- What is no lexeme is a blank, or stands after `TURN`. -/
def Accounted (segs : List Segment) : Segment → Prop
  | .lexeme _ _ => True
  | .space c => isBlank c = true
  | .unread _ => ∃ word, .lexeme .turn word ∈ segs

theorem Accounted.mono {segs more : List Segment} {s : Segment} (h : s.Accounted segs)
    (hsub : ∀ word, .lexeme .turn word ∈ segs → .lexeme .turn word ∈ more) :
    s.Accounted more := by
  cases s with
  | lexeme kind cs => trivial
  | space c => exact h
  | unread cs =>
    obtain ⟨word, hword⟩ := h
    exact ⟨word, hsub word hword⟩

theorem accounted_cons {s : Segment} {segs : List Segment} (hs : s.Accounted (s :: segs))
    (h : ∀ t ∈ segs, t.Accounted segs) : ∀ t ∈ s :: segs, t.Accounted (s :: segs) := by
  intro t ht
  rcases List.mem_cons.mp ht with rfl | ht
  · exact hs
  · exact (h t ht).mono fun word hword => List.mem_cons_of_mem s hword

theorem Cut.accounted {cs : List Char} {segs : List Segment} (h : Cut cs segs) :
    ∀ s ∈ segs, s.Accounted segs := by
  induction h with
  | nil => simp
  | join hhead tail =>
    refine accounted_cons trivial fun t ht => ?_
    unfold afterJoin at ht
    rcases List.mem_append.mp ht with ht | ht
    · obtain ⟨d, hd, rfl⟩ := List.mem_map.mp ht
      exact List.mem_takeWhile_imp hd
    · split at ht
      · cases ht
      · rw [List.mem_singleton] at ht
        subst ht
        trivial
  | turn hhead tail =>
    intro t ht
    rcases List.mem_cons.mp ht with rfl | ht
    · trivial
    · cases tail with
      | nil => cases ht
      | cons d tail =>
        obtain rfl := List.mem_singleton.mp ht
        exact ⟨_, List.mem_cons_self⟩
  | letter _ _ _ _ ih => exact accounted_cons trivial ih
  | number _ _ _ _ ih => exact accounted_cons trivial ih
  | blank hblank _ ih => exact accounted_cons hblank ih
  | unknown _ _ _ _ _ _ ih => exact accounted_cons trivial ih

end Segment

/-! ## The tokens of a line and its characters -/

namespace Token

/-- In plain segments the characters that are not blank are the texts of
the tokens in a row. -/
theorem capitals_of_segments {segs : List Segment} (h : ∀ s ∈ segs, s.Plain) (offset : Nat) :
    (Text.solid (segs.flatMap Segment.text)).map upper =
      (ofSegments offset segs).flatMap fun t => (Typed.canonical t).toList := by
  induction segs generalizing offset with
  | nil => rfl
  | cons s segs ih =>
    have ih := ih fun t ht => h t (List.mem_cons_of_mem s ht)
    have hs := h s List.mem_cons_self
    rw [List.flatMap_cons, Text.solid_append, List.map_append]
    cases s with
    | lexeme kind cs =>
      obtain ⟨hkind, hbare⟩ := hs
      rw [ofSegments, List.flatMap_cons, ih (offset + byteLength cs), Segment.text,
        Text.solid_of_forall hbare]
      simp [Typed.canonical, spelling, hkind]
    | space c =>
      have hblank : isBlank c = true := hs
      rw [ih (offset + byteLength (Segment.space c).text)]
      simp [ofSegments, Segment.text, Text.solid, hblank]
    | unread cs => exact hs.elim

end Token

/-- The kinds of token in orders to fleets and worlds. -/
def TokenKind.OfOrders (kind : TokenKind) : Prop :=
  kind = .number ∨ ∃ s : Sign, kind = s.kind ∧ s ≠ .turn

theorem TokenKind.OfOrders.plain {kind : TokenKind} {cs : List Char} (h : kind.OfOrders)
    (hlex : IsLexeme kind cs) : (Segment.lexeme kind cs).Plain := by
  rcases h with rfl | ⟨s, rfl, -⟩
  · exact ⟨TokenKind.noConfusion, fun c hc => Text.isBlank_of_isDigit (hlex.2 c hc)⟩
  · refine ⟨s.kind_ne_joinText, fun c hc => Text.isBlank_of_isBlank_upper ?_⟩
    exact s.isBlank_of_mem_letters _ (hlex.letters ▸ List.mem_map_of_mem hc)

/-- Where only such tokens stand, nothing of the line is unread. -/
theorem plain_of_line {line : String} (h : ∀ t ∈ lineTokens line, t.kind.OfOrders) :
    ∀ s ∈ Segment.segments (Text.trim line.toList), s.Plain := by
  have hlexeme : ∀ {kind cs}, .lexeme kind cs ∈ Segment.segments (Text.trim line.toList) →
      IsLexeme kind cs ∧ kind.OfOrders := by
    intro kind cs hmem
    have hlex := Segment.isLexeme_of_mem_segments (Text.bareEnds_trim line.toList).last hmem
    obtain ⟨t, ht, rfl⟩ := Token.exists_token_of_lexeme hmem 0
    have hend : t.isEnd = false := by
      rw [Token.isEnd, beq_eq_false_iff_ne]
      intro hkind
      rw [hkind] at hlex
      exact hlex
    exact ⟨hlex, h t (List.mem_filter.mpr ⟨ht, by simp [hend]⟩)⟩
  intro s hs
  have haccounted := (Segment.cut_segments _).accounted s hs
  cases s with
  | lexeme kind cs => exact (hlexeme hs).2.plain (hlexeme hs).1
  | space c => exact haccounted
  | unread cs =>
    obtain ⟨word, hword⟩ := haccounted
    rcases (hlexeme hword).2 with hnumber | ⟨s, hkind, hturn⟩
    · cases hnumber
    · exact absurd (Sign.kind_injective (s := s) (t := .turn) hkind.symm) hturn

/-- In a plain line the characters that are not blank are the texts of the
tokens, in any case. -/
theorem capitals_of_plain {line : String}
    (h : ∀ s ∈ Segment.segments (Text.trim line.toList), s.Plain) :
    (Text.solid line.toList).map upper = (Typed.mk (lineTokens line)).text.toList := by
  obtain ⟨stop, htokens⟩ := exists_tokenize_eq line
  have hcapitals := Token.capitals_of_segments h 0
  rw [Segment.text_segments, Text.solid_trim] at hcapitals
  rw [hcapitals, show Token.ofSegments 0 _ = tokenize line from rfl, htokens,
    List.flatMap_append, Typed.toList_text]
  simp [Typed.canonical, Token.atEnd]

/-! ## The two words -/

namespace Segment

/-- A text whose first segment is one of the two words starts with that
word. -/
theorem Cut.word_first {cs text : List Char} {more : List Segment} {s : Sign}
    (h : Cut cs (.lexeme s.kind text :: more)) (hs : s = .join ∨ s = .turn) :
    ∃ tail, cs = text ++ tail ∧ text.map upper = s.letters ∧
      (s = .join → more = afterJoin tail) := by
  generalize hsegs : Segment.lexeme s.kind text :: more = segs at h
  cases h with
  | nil => cases hsegs
  | join hhead tail =>
    obtain ⟨hlexeme, rfl⟩ := List.cons.inj hsegs
    obtain ⟨hkind, rfl⟩ := Segment.lexeme.inj hlexeme
    obtain rfl : s = .join := Sign.kind_injective hkind
    exact ⟨tail, rfl, hhead, fun _ => rfl⟩
  | turn hhead tail =>
    obtain ⟨hlexeme, -⟩ := List.cons.inj hsegs
    obtain ⟨hkind, rfl⟩ := Segment.lexeme.inj hlexeme
    obtain rfl : s = .turn := Sign.kind_injective hkind
    exact ⟨tail, rfl, hhead, fun hjoin => by cases hjoin⟩
  | letter hjoin hturn hletter =>
    obtain ⟨hkind, -⟩ := Segment.lexeme.inj (List.cons.inj hsegs).1
    obtain ⟨r, hr, hnoJoin, hnoTurn⟩ := exists_sign_of_letterKind? hletter
    obtain rfl : s = r := Sign.kind_injective (hkind.trans hr)
    rcases hs with rfl | rfl
    · exact absurd rfl hnoJoin
    · exact absurd rfl hnoTurn
  | number =>
    exact absurd (Segment.lexeme.inj (List.cons.inj hsegs).1).1 s.kind_ne_number
  | blank => cases (List.cons.inj hsegs).1
  | unknown =>
    obtain ⟨hkind, -⟩ := Segment.lexeme.inj (List.cons.inj hsegs).1
    rcases hs with rfl | rfl
    · cases hkind
    · cases hkind

/-- A text that starts bare starts with a lexeme. -/
theorem exists_lexeme_of_head {cs : List Char} (hne : cs ≠ [])
    (hhead : ∀ c ∈ cs.head?, isBlank c = false) :
    ∃ kind text more, segments cs = .lexeme kind text :: more := by
  generalize hsegs : segments cs = segs
  have hcut := hsegs ▸ cut_segments cs
  cases hcut with
  | nil => exact absurd rfl hne
  | blank hblank =>
    rw [hhead _ rfl] at hblank
    cases hblank
  | join | turn | letter | number | unknown => exact ⟨_, _, _, rfl⟩

end Segment

/-- The first token of a line is the first segment of the trimmed line. -/
theorem exists_first_lexeme {line : String} {t : Token} {rest : List Token}
    (h : lineTokens line = t :: rest) :
    ∃ text more, Segment.segments (Text.trim line.toList) = .lexeme t.kind text :: more := by
  obtain ⟨stop, htokens⟩ := exists_tokenize_eq line
  have hend : t.isEnd = false :=
    (sound_of_mem_lineTokens (h ▸ List.mem_cons_self)).isEnd
  rw [h, tokenize] at htokens
  have hne : Text.trim line.toList ≠ [] := by
    intro hnil
    rw [hnil, Segment.segments, Token.ofSegments] at htokens
    injection htokens with ht
    rw [← ht] at hend
    cases hend
  obtain ⟨kind, text, more, hsegments⟩ :=
    Segment.exists_lexeme_of_head hne (Text.bareEnds_trim line.toList).head
  rw [hsegments, Token.ofSegments] at htokens
  injection htokens with ht
  exact ⟨text, more, ht ▸ hsegments⟩

/-- A line whose first token is one of the two words starts with it. -/
theorem exists_word_of_first {line : String} {t : Token} {rest : List Token} {s : Sign}
    (hs : s = .join ∨ s = .turn) (h : lineTokens line = t :: rest) (hkind : t.kind = s.kind) :
    ∃ word tail, Text.trim line.toList = word ++ tail ∧ word.map upper = s.letters ∧
      (s = .join → ∃ text, Segment.segments (Text.trim line.toList) =
        .lexeme .join text :: Segment.afterJoin tail) := by
  obtain ⟨text, more, hsegments⟩ := exists_first_lexeme h
  rw [hkind] at hsegments
  have hcut := hsegments ▸ Segment.cut_segments (Text.trim line.toList)
  obtain ⟨tail, htext, hword, hmore⟩ := hcut.word_first hs
  refine ⟨text, tail, htext, hword, ?_⟩
  rintro rfl
  exact ⟨text, hmore rfl ▸ hsegments⟩

/-- The free text of a line is the rest of the line after `JOIN`,
trimmed. -/
theorem free_of_line {line text : String}
    (h : Leads [.sign .join, .free text] (lineTokens line) []) :
    ∃ word tail, Text.trim line.toList = word ++ tail ∧
      word.map upper = Sign.join.letters ∧ text = String.ofList (Text.trim tail) := by
  obtain ⟨t, more, htokens, ht, u, _, rfl, ⟨hkind, rfl⟩, rfl⟩ := h
  obtain ⟨word, tail, hline, hword, hjoin⟩ := exists_word_of_first (.inl rfl) htokens ht
  obtain ⟨joined, hsegments⟩ := hjoin rfl
  refine ⟨word, tail, hline, hword, ?_⟩
  have hmem : u ∈ tokenize line := by
    obtain ⟨stop, hstop⟩ := exists_tokenize_eq line
    rw [hstop, htokens]
    simp
  obtain ⟨cs, hcs, htext⟩ := Token.exists_of_mem_ofSegments hmem
    (by rw [Token.isEnd, hkind]; rfl)
  rw [hkind, hsegments] at hcs
  obtain ⟨-, hfree, -⟩ := Segment.mem_afterJoin (List.mem_of_ne_of_mem (by simp) hcs)
  have hlast : ∀ c ∈ cs.getLast?, isBlank c = false := by
    refine Segment.last_of_suffix ?_ (Text.bareEnds_trim line.toList).last
    rw [hfree, hline]
    exact (List.dropWhile_suffix isBlank).trans (List.suffix_append word tail)
  have htrim : Text.trim tail = cs := by
    rw [hfree] at hlast ⊢
    exact Text.trimEnd_of_last hlast
  rw [htrim, htext, hkind]
  simp [Token.spelling]

/-! ## What is sent -/

theorem Apart.ofOrders {ws : List Word} (h : Apart ws) : ∀ w ∈ ws, w.kind.OfOrders := by
  induction h with
  | nil => simp
  | lone hs _ ih =>
    intro w hw
    rcases List.mem_cons.mp hw with rfl | hw
    · refine .inr ⟨_, rfl, ?_⟩
      rcases hs with rfl | rfl | rfl <;> exact Sign.noConfusion
    · exact ih w hw
  | numbered hs n _ ih =>
    intro w hw
    rcases List.mem_cons.mp hw with rfl | hw
    · refine .inr ⟨_, rfl, ?_⟩
      rcases hs with rfl | rfl | rfl | rfl <;> exact Sign.noConfusion
    · rcases List.mem_cons.mp hw with rfl | hw
      · exact .inl rfl
      · exact ih w hw

/-- When the tokens of a line are words that stay apart, the canonical text
of the words is the line without its blanks, in capitals, without
superfluous zeros. -/
theorem Apart.chars_eq_of_line {ws : List Word} (h : Apart ws) {line : String}
    (hleads : Leads ws (lineTokens line) []) :
    ws.flatMap Word.chars = Text.trimZeros false ((Text.solid line.toList).map upper) := by
  have hkinds : (lineTokens line).map Token.kind = ws.map Word.kind := by
    simpa using hleads.map_kind
  have horders : ∀ t ∈ lineTokens line, t.kind.OfOrders := by
    intro t ht
    have hmem : t.kind ∈ ws.map Word.kind := hkinds ▸ List.mem_map_of_mem ht
    obtain ⟨w, hw, hkind⟩ := List.mem_map.mp hmem
    exact hkind ▸ h.ofOrders w hw
  rw [capitals_of_plain (plain_of_line horders),
    h.trimZeros_of_spells (hleads.spells_text fun _ => sound_of_mem_lineTokens)]

namespace Reading

/-- Let a line be accepted for sending as a complete command. An order to a
fleet or a world is sent as the line without its blanks, in capitals and
without superfluous zeros. A line that joins starts with `JOIN` in any
case, and is sent with the rest of the line, trimmed, in its own letters. A
line that ends the turn starts with `TURN` in any case; only what follows
that word is not sent. -/
theorem wire_says_what_was_typed {line : String} {c : Command}
    (herror : (final line).error = none) (hcommand : (final line).command = some c)
    (hcomplete : c.isComplete = true) :
    (c.kind ≠ .join → c.kind ≠ .turn → c.wire? =
      some (String.ofList (Text.trimZeros false ((Text.solid line.toList).map upper)))) ∧
    (c.kind = .join → ∃ word tail, Text.trim line.toList = word ++ tail ∧
      word.map upper = ['J', 'O', 'I', 'N'] ∧
      c.wire? = some ("JOIN " ++ String.ofList (Text.trim tail))) ∧
    (c.kind = .turn → ∃ word tail, Text.trim line.toList = word ++ tail ∧
      word.map upper = ['T', 'U', 'R', 'N'] ∧ c.wire? = some "TURN") := by
  obtain ⟨hleads, -⟩ := final_accepts_iff_lineTokens.mp ⟨herror, hcommand⟩
  refine ⟨fun hjoin hturn => ?_, fun hjoin => ?_, fun hturn => ?_⟩
  · have hapart : Apart c.words := by
      refine c.apart_words ?_ ?_ ?_
      · rintro text rfl
        exact hjoin rfl
      · rintro rfl
        cases hcomplete
      · rintro rfl
        exact hturn rfl
    rw [c.wire?_eq_words hcomplete, hapart.chars_eq_of_line hleads]
  · cases c with
    | join text =>
      obtain ⟨word, tail, hline, hword, rfl⟩ := free_of_line hleads
      exact ⟨word, tail, hline, hword, rfl⟩
    | _ => cases hjoin
  · cases c with
    | turn =>
      obtain ⟨t, more, htokens, ht, -⟩ := hleads
      obtain ⟨word, tail, hline, hword, -⟩ := exists_word_of_first (.inr rfl) htokens ht
      exact ⟨word, tail, hline, hword, rfl⟩
    | _ => cases hturn

/-- A path with a blank and leading zeros; a free text with blanks around
it; and a tail after `TURN`. -/
theorem wire_says_what_was_typed_samples :
    (Command.move ⟨5⟩ [⟨7⟩, ⟨10⟩]).wire? =
      some (String.ofList (Text.trimZeros false ((Text.solid "f05 w007W10 ".toList).map upper))) ∧
    (∃ word tail, Text.trim " join  Merchant Bob ".toList = word ++ tail ∧
      word.map upper = ['J', 'O', 'I', 'N'] ∧
      (Command.join "Merchant Bob").wire? = some ("JOIN " ++ String.ofList (Text.trim tail))) ∧
    (∃ word tail, Text.trim "Turn now".toList = word ++ tail ∧
      word.map upper = ['T', 'U', 'R', 'N'] ∧ Command.turn.wire? = some "TURN") := by
  have hmove : (final "f05 w007W10 ").error = none ∧
      (final "f05 w007W10 ").command = some (.move ⟨5⟩ [⟨7⟩, ⟨10⟩]) := by decide +kernel
  have hjoin : (final " join  Merchant Bob ").error = none ∧
      (final " join  Merchant Bob ").command = some (.join "Merchant Bob") := by decide +kernel
  have hturn : (final "Turn now").error = none ∧
      (final "Turn now").command = some .turn := by decide +kernel
  refine ⟨?_, ?_, ?_⟩
  · exact (wire_says_what_was_typed hmove.1 hmove.2 rfl).1 CommandKind.noConfusion
      CommandKind.noConfusion
  · exact (wire_says_what_was_typed hjoin.1 hjoin.2 rfl).2.1 rfl
  · exact (wire_says_what_was_typed hturn.1 hturn.2 rfl).2.2 rfl

end Reading

end FleetOrders
