/-
FleetOrders.Proofs.Layout — where the tokens of a line lie in its text.

Nothing of a line is lost but blanks, what stands behind `TURN`, and the
case of letters: every token is a slice of the trimmed line, and what is
left between them is blank.

* `Slice` — the characters of a text between two bytes. Neither byte lies
  inside a character.
* `Token.Lies` — the token is a slice of the text, in capitals; a number is a
  whole run of digits.
* `Token.Follows` — what lies between a token and the next, and what the
  next must be.
* `Segment.Cut.laid` — the tokens of a text are laid out so, by induction on
  how it is cut.

`tokenize_lossless` says all of it about lines.
-/
import FleetOrders.Proofs.Cutting
import FleetOrders.Text.Slice
import Mathlib.Data.List.Chain

namespace FleetOrders

open Text (isBlank isDigit upper trim trimmed)

/-! ## Slices -/

theorem append_inj_of_byteLength {as bs cs ds : List Char} (h : as ++ bs = cs ++ ds)
    (hbytes : byteLength as = byteLength cs) : as = cs ∧ bs = ds := by
  induction as generalizing cs with
  | nil =>
    cases cs with
    | nil => exact ⟨rfl, h⟩
    | cons c cs =>
      have hpos := c.utf8Size_pos
      simp only [byteLength] at hbytes
      omega
  | cons a as ih =>
    cases cs with
    | nil =>
      have hpos := a.utf8Size_pos
      simp only [byteLength] at hbytes
      omega
    | cons c cs =>
      obtain ⟨rfl, hrest⟩ := List.cons.inj h
      obtain ⟨rfl, rfl⟩ := ih hrest (by simpa [byteLength] using hbytes)
      exact ⟨rfl, rfl⟩

/-- A text is cut at a byte into a part of that many bytes and the rest. -/
theorem Text.cutAt?_eq_some_iff {byte : Nat} {text head rest : List Char} :
    Text.cutAt? byte text = some (head, rest) ↔ text = head ++ rest ∧ byte = byteLength head := by
  constructor
  · intro h
    induction text generalizing byte head with
    | nil =>
      rw [Text.cutAt?] at h
      split at h
      case isTrue hzero =>
        cases h
        exact ⟨rfl, hzero⟩
      case isFalse => cases h
    | cons c cs ih =>
      rw [Text.cutAt?] at h
      split at h
      case isTrue hzero =>
        cases h
        exact ⟨rfl, hzero⟩
      split at h
      case isTrue => cases h
      case isFalse hle =>
        obtain ⟨⟨front, tail⟩, hcut, hparts⟩ := Option.map_eq_some_iff.mp h
        cases hparts
        obtain ⟨rfl, hbyte⟩ := ih hcut
        refine ⟨rfl, ?_⟩
        rw [byteLength]
        omega
  · rintro ⟨rfl, rfl⟩
    induction head with
    | nil => cases rest <;> rfl
    | cons c head ih =>
      have hpos := c.utf8Size_pos
      rw [List.cons_append, Text.cutAt?, byteLength, if_neg (by omega), if_neg (by omega),
        Nat.add_sub_cancel_left, ih]
      rfl

/-- The characters of the text from one byte to another. -/
def Slice (text : List Char) (start stop : Nat) (cs : List Char) : Prop :=
  ∃ before after, text = before ++ (cs ++ after) ∧ start = byteLength before ∧
    stop = start + byteLength cs

namespace Slice

variable {text cs ds before after : List Char} {start mid stop : Nat} {c : Char}

theorem of_append (before cs after : List Char) :
    Slice (before ++ (cs ++ after)) (byteLength before) (byteLength before + byteLength cs) cs :=
  ⟨before, after, rfl, rfl, rfl⟩

theorem le (h : Slice text start stop cs) : start ≤ stop := by
  obtain ⟨before, after, -, -, rfl⟩ := h
  exact Nat.le_add_right start _

/-- What is cut out of a text from one byte to another stands there. -/
theorem slice?_eq_some_iff : Text.slice? start stop text = some cs ↔ Slice text start stop cs := by
  constructor
  · intro h
    rw [Text.slice?] at h
    split at h
    case isTrue => cases h
    case isFalse hle =>
      obtain ⟨⟨before, rest⟩, hfirst, h⟩ := Option.bind_eq_some_iff.mp h
      obtain ⟨⟨part, after⟩, hsecond, h⟩ := Option.bind_eq_some_iff.mp h
      cases h
      obtain ⟨rfl, hbefore⟩ := Text.cutAt?_eq_some_iff.mp hfirst
      obtain ⟨rfl, hpart⟩ := Text.cutAt?_eq_some_iff.mp hsecond
      exact ⟨before, after, rfl, hbefore, by omega⟩
  · rintro ⟨before, after, rfl, rfl, rfl⟩
    have hfirst : Text.cutAt? (byteLength before) (before ++ (cs ++ after)) =
        some (before, cs ++ after) := Text.cutAt?_eq_some_iff.mpr ⟨rfl, rfl⟩
    have hsecond : Text.cutAt? (byteLength before + byteLength cs - byteLength before)
        (cs ++ after) = some (cs, after) :=
      Text.cutAt?_eq_some_iff.mpr ⟨rfl, Nat.add_sub_cancel_left _ _⟩
    rw [Text.slice?, if_neg (Nat.not_lt.mpr (Nat.le_add_right _ _)), hfirst]
    simp only [Option.bind_eq_bind, Option.bind_some, hsecond]

/-- No characters stand where a slice starts. -/
theorem empty (h : Slice text start stop cs) : Slice text start start [] := by
  obtain ⟨before, after, rfl, rfl, -⟩ := h
  exact of_append before [] (cs ++ after)

theorem append (hcs : Slice text start mid cs) (hds : Slice text mid stop ds) :
    Slice text start stop (cs ++ ds) := by
  obtain ⟨before, after, rfl, rfl, rfl⟩ := hcs
  obtain ⟨upTo, rest, htext, hmid, rfl⟩ := hds
  rw [← List.append_assoc] at htext
  rw [← byteLength_append] at hmid
  obtain ⟨-, rfl⟩ := append_inj_of_byteLength htext hmid
  refine ⟨before, rest, by rw [List.append_assoc], rfl, ?_⟩
  rw [byteLength_append, Nat.add_assoc]

/-- The one character from the end of a first part on is the next. -/
theorem head? (h : Slice (before ++ after) (byteLength before) stop [c]) :
    after.head? = some c := by
  obtain ⟨upTo, rest, htext, hbytes, -⟩ := h
  obtain ⟨-, rfl⟩ := append_inj_of_byteLength htext hbytes
  rfl

/-- The one character up to the end of a first part is its last. -/
theorem getLast? (h : Slice (before ++ after) start (byteLength before) [c]) :
    before.getLast? = some c := by
  obtain ⟨upTo, rest, htext, rfl, hbytes⟩ := h
  rw [← List.append_assoc] at htext
  rw [← byteLength_append] at hbytes
  obtain ⟨rfl, -⟩ := append_inj_of_byteLength htext hbytes
  exact List.getLast?_concat

end Slice

/-- Nothing but blanks stands in the text from one byte to another. -/
def BlankBetween (text : List Char) (start stop : Nat) : Prop :=
  ∃ blanks, Slice text start stop blanks ∧ ∀ c ∈ blanks, isBlank c = true

theorem Slice.blankBetween {text cs : List Char} {start stop : Nat}
    (h : Slice text start stop cs) : BlankBetween text start start :=
  ⟨[], h.empty, by simp⟩

theorem BlankBetween.trans {text : List Char} {start mid stop : Nat}
    (h : BlankBetween text start mid) (h' : BlankBetween text mid stop) :
    BlankBetween text start stop := by
  obtain ⟨blanks, hslice, hblanks⟩ := h
  obtain ⟨blanks', hslice', hblanks'⟩ := h'
  refine ⟨blanks ++ blanks', hslice.append hslice', fun c hc => ?_⟩
  exact (List.mem_append.mp hc).elim (hblanks c) (hblanks' c)

namespace Token

/-! ## Tokens in a text -/

/-- The token lies in the text: it is a slice of it, not empty, in capitals
unless it is free text. A number is a run of digits that no digit
prolongs at either end. -/
structure Lies (text : List Char) (t : Token) : Prop where
  slice : ∃ cs, cs ≠ [] ∧ Slice text t.offset t.stop cs ∧
    t.text.toList = if t.kind = .joinText then cs else cs.map upper
  digits : t.kind = .number → ∀ c ∈ t.text.toList, isDigit c = true
  whole : t.kind = .number → ∀ place c,
    Slice text place t.offset [c] ∨ Slice text t.stop place [c] → isDigit c = false

/-- The second token is the next after the first. Blanks stand between them,
unless the first is `TURN`. A mark has its number right behind it, `JOIN` has
a free text or nothing, and free text and `TURN` have nothing. -/
structure Follows (text : List Char) (t u : Token) : Prop where
  le : t.stop ≤ u.offset
  blank : t.kind ≠ .turn → BlankBetween text t.stop u.offset
  mark : t.kind.IsMark → u.kind = .number ∧ u.offset = t.stop
  join : t.kind = .join → u.kind = .joinText ∨ u.isEnd = true
  last : t.kind = .joinText ∨ t.kind = .turn → u.isEnd = true

/-- The tokens are laid out in the text from the byte on, up to an end
marker at its length. -/
structure Laid (text : List Char) (start : Nat) (ts : List Token) : Prop where
  head : ∀ t ∈ ts.head?, BlankBetween text start t.offset
  lies : ∀ t ∈ ts, t.isEnd = false → t.Lies text
  chain : ts.IsChain (Follows text)
  last : ts.getLast? = some (atEnd (byteLength text))

section

variable {before cs after : List Char}

@[simp] theorem stop_spelling (kind : TokenKind) (cs : List Char) (offset : Nat) :
    (⟨kind, spelling kind cs, offset⟩ : Token).stop = offset + byteLength cs := by
  rw [stop, utf8ByteSize_spelling]

theorem exists_slice_spelling (hne : cs ≠ []) (kind : TokenKind) (before after : List Char) :
    let t : Token := ⟨kind, spelling kind cs, byteLength before⟩
    ∃ ds, ds ≠ [] ∧ Slice (before ++ (cs ++ after)) t.offset t.stop ds ∧
      t.text.toList = if t.kind = .joinText then ds else ds.map upper := by
  refine ⟨cs, hne, ?_, ?_⟩
  · rw [stop_spelling]
    exact Slice.of_append before cs after
  · rw [spelling, String.toList_ofList]

theorem lies_spelling (kind : TokenKind) (hkind : kind ≠ .number) (hne : cs ≠ [])
    (before after : List Char) :
    (⟨kind, spelling kind cs, byteLength before⟩ : Token).Lies (before ++ (cs ++ after)) where
  slice := exists_slice_spelling hne kind before after
  digits hnumber := absurd hnumber hkind
  whole hnumber := absurd hnumber hkind

theorem lies_number (hne : cs ≠ []) (hdigits : ∀ c ∈ cs, isDigit c = true)
    (hbefore : ∀ c ∈ before.getLast?, isDigit c = false) (hafter : Segment.NoDigitHead after) :
    (⟨.number, spelling .number cs, byteLength before⟩ : Token).Lies (before ++ (cs ++ after)) where
  slice := exists_slice_spelling hne .number before after
  digits _ := by simpa [spelling, Text.map_upper_of_isDigit hdigits] using hdigits
  whole _ place c h := by
    rcases h with h | h
    · exact hbefore c h.getLast?
    · rw [stop_spelling, ← byteLength_append, ← List.append_assoc] at h
      exact hafter c h.head?

end

namespace Laid

variable {text : List Char} {start : Nat} {t : Token} {ts : List Token}

theorem atEnd (text : List Char) :
    Laid text (byteLength text) [Token.atEnd (byteLength text)] where
  head t ht := by
    obtain rfl := Option.some.inj ht
    have hend := Slice.of_append text [] []
    rw [List.append_nil, List.append_nil] at hend
    exact hend.blankBetween
  lies t ht hend := by
    rw [List.mem_singleton.mp ht] at hend
    cases hend
  chain := List.isChain_singleton _
  last := rfl

theorem of_blank (h : Laid text start ts) {place : Nat} (hblank : BlankBetween text place start) :
    Laid text place ts :=
  ⟨fun t ht => hblank.trans (h.head t ht), h.lies, h.chain, h.last⟩

theorem cons (h : Laid text start ts) (ht : t.Lies text)
    (hnext : ∀ u ∈ ts.head?, Follows text t u) : Laid text t.offset (t :: ts) where
  head u hu := by
    obtain rfl := Option.some.inj hu
    obtain ⟨cs, -, hslice, -⟩ := ht.slice
    exact hslice.blankBetween
  lies u hu := by
    rcases List.mem_cons.mp hu with rfl | hu
    · exact fun _ => ht
    · exact h.lies u hu
  chain := List.isChain_cons.mpr ⟨hnext, h.chain⟩
  last := by
    cases ts with
    | nil => cases h.last
    | cons u us => exact h.last

/-- A token before others, where it is neither `TURN` nor free text. -/
theorem cons_spelling {kind : TokenKind} {cs before : List Char}
    (h : Laid text (byteLength (before ++ cs)) ts)
    (ht : (⟨kind, spelling kind cs, byteLength before⟩ : Token).Lies text)
    (hturn : kind ≠ .turn) (hfree : kind ≠ .joinText)
    (hmark : kind.IsMark → ∀ u ∈ ts.head?, u.kind = .number ∧ u.offset = byteLength (before ++ cs))
    (hjoin : kind = .join → ∀ u ∈ ts.head?, u.kind = .joinText ∨ u.isEnd = true) :
    Laid text (byteLength before) (⟨kind, spelling kind cs, byteLength before⟩ :: ts) := by
  refine h.cons ht fun u hu => ?_
  obtain ⟨blanks, hslice, hblanks⟩ := h.head u hu
  rw [byteLength_append] at hslice hmark
  exact {
    le := by rw [stop_spelling]; exact hslice.le
    blank := fun _ => by rw [stop_spelling]; exact ⟨blanks, hslice, hblanks⟩
    mark := fun hkind => by rw [stop_spelling]; exact hmark hkind u hu
    join := fun hkind => hjoin hkind u hu
    last := fun hkind => (hkind.elim hfree hturn).elim }

/-- A token that asks for nothing behind it. -/
theorem cons_plain {kind : TokenKind} {cs before : List Char}
    (h : Laid text (byteLength (before ++ cs)) ts)
    (ht : (⟨kind, spelling kind cs, byteLength before⟩ : Token).Lies text)
    (hkind : kind = .number ∨ kind = .unknown) :
    Laid text (byteLength before) (⟨kind, spelling kind cs, byteLength before⟩ :: ts) := by
  refine h.cons_spelling ht ?_ ?_ (fun hmark => absurd hmark ?_) (fun hjoin => absurd hjoin ?_)
  all_goals rcases hkind with rfl | rfl <;> decide

end Laid

end Token

namespace Segment

open Token (Laid spelling ofSegments)

variable {text before cs tail : List Char}

/-- Free text reaches to the end of the line. -/
theorem laid_free (htext : text = before ++ cs) (hne : cs ≠ []) :
    Laid text (byteLength before)
      [⟨.joinText, spelling .joinText cs, byteLength before⟩, Token.atEnd (byteLength text)] := by
  have hbytes : byteLength text = byteLength before + byteLength cs := by
    rw [htext, byteLength_append]
  have hlies : (⟨.joinText, spelling .joinText cs, byteLength before⟩ : Token).Lies text := by
    have hspelled := Token.lies_spelling .joinText (by decide) hne before []
    rwa [List.append_nil, ← htext] at hspelled
  refine (Laid.atEnd text).cons hlies fun u hu => ?_
  obtain rfl := Option.some.inj hu
  have hstop : Token.stop ⟨.joinText, spelling .joinText cs, byteLength before⟩ =
      byteLength text := by rw [Token.stop_spelling, hbytes]
  exact {
    le := Nat.le_of_eq hstop
    blank := fun _ => hstop ▸ (Laid.atEnd text).head _ rfl
    mark := fun hmark => by rcases hmark with h | h <;> cases h
    join := fun hjoin => by cases hjoin
    last := fun _ => rfl }

/-- Behind `JOIN` there are blanks, the free text and the end of the line. -/
theorem laid_afterJoin (htext : text = before ++ tail) :
    let ts := ofSegments (byteLength before) (afterJoin tail)
    Laid text (byteLength before) ts ∧
      ∀ u ∈ ts.head?, u.kind = .joinText ∨ u.isEnd = true := by
  have hsplit : tail.takeWhile isBlank ++ tail.dropWhile isBlank = tail :=
    List.takeWhile_append_dropWhile
  have hblank : BlankBetween text (byteLength before)
      (byteLength before + byteLength (tail.takeWhile isBlank)) := by
    have hslice := Slice.of_append before (tail.takeWhile isBlank) (tail.dropWhile isBlank)
    rw [hsplit, ← htext] at hslice
    exact ⟨_, hslice, fun c hc => List.mem_takeWhile_imp hc⟩
  have hbytes : byteLength text = byteLength before + byteLength tail := by
    rw [htext, byteLength_append]
  rw [Token.ofSegments_afterJoin, ← hbytes]
  cases hfree : tail.dropWhile isBlank with
  | nil =>
    rw [hfree, List.append_nil] at hsplit
    rw [hsplit, ← hbytes] at hblank
    refine ⟨(Laid.atEnd text).of_blank hblank, fun u hu => .inr ?_⟩
    rw [← Option.some.inj hu]
    rfl
  | cons c free =>
    have htext' : text = before ++ tail.takeWhile isBlank ++ c :: free := by
      rw [List.append_assoc, ← hfree, hsplit, htext]
    have hlaid := laid_free htext' (List.cons_ne_nil c free)
    rw [byteLength_append] at hlaid
    refine ⟨hlaid.of_blank hblank, fun u hu => .inl ?_⟩
    rw [← Option.some.inj hu]

/-- What stands behind `TURN` is not looked at. -/
theorem laid_turn (htext : text = before ++ (cs ++ tail)) (hne : cs ≠ []) :
    Laid text (byteLength before)
      [⟨.turn, spelling .turn cs, byteLength before⟩, Token.atEnd (byteLength text)] := by
  have hlies := htext ▸ Token.lies_spelling .turn (by decide) hne before tail
  refine (Laid.atEnd text).cons hlies fun u hu => ?_
  obtain rfl := Option.some.inj hu
  have hstop : Token.stop ⟨.turn, spelling .turn cs, byteLength before⟩ ≤ byteLength text := by
    rw [Token.stop_spelling, htext, byteLength_append, byteLength_append]
    omega
  exact {
    le := hstop
    blank := fun hkind => absurd rfl hkind
    mark := fun hmark => by rcases hmark with h | h <;> cases h
    join := fun hjoin => by cases hjoin
    last := fun _ => rfl }

theorem ne_nil_of_map_upper {s : Sign} {head : List Char} (h : head.map upper = s.letters) :
    head ≠ [] := by
  rintro rfl
  cases s <;> cases h

/-- The tokens of a text are laid out in it. The text before is kept to
know that no digit stands before a number. -/
theorem Cut.laid {segs : List Segment} (h : Cut cs segs) (htext : text = before ++ cs)
    (hbefore : (∀ c ∈ before.getLast?, isDigit c = false) ∨ NoDigitHead cs) :
    Laid text (byteLength before) (ofSegments (byteLength before) segs) := by
  have hlast : ∀ {c : Char} (_ : isDigit c = false) (ds : List Char),
      ∀ d ∈ (ds ++ [c]).getLast?, isDigit d = false := by
    intro c hc ds d hd
    rw [List.getLast?_concat] at hd
    rwa [← Option.some.inj hd]
  induction h generalizing before with
  | nil =>
    rw [List.append_nil] at htext
    exact htext ▸ Laid.atEnd text
  | @join head hhead tail =>
    have hne := ne_nil_of_map_upper (s := .join) hhead
    have hlies := htext ▸ Token.lies_spelling .join (by decide) hne before tail
    rw [← List.append_assoc] at htext
    obtain ⟨hafter, hfree⟩ := laid_afterJoin htext
    rw [ofSegments, ← byteLength_append]
    exact hafter.cons_spelling hlies (by decide) (by decide) (fun h => absurd h (by decide))
      fun _ => hfree
  | @turn head hhead tail =>
    rw [ofSegments, Token.ofSegments_afterTurn]
    have hlaid := laid_turn htext (ne_nil_of_map_upper (s := .turn) hhead)
    rwa [htext, byteLength_append, byteLength_append, ← Nat.add_assoc, ← htext] at hlaid
  | @letter c rest kind segs hjoin hturn hkind hrest ih =>
    obtain ⟨hdigit, hnumber⟩ := letterKind?_facts hkind
    obtain ⟨s, rfl, hneJoin, hneTurn⟩ := exists_sign_of_letterKind? hkind
    have htext' : text = before ++ [c] ++ rest := by simp [htext]
    have hlaid := ih htext' (.inl (hlast hdigit before))
    have hlies := Token.lies_spelling s.kind s.kind_ne_number (List.cons_ne_nil c []) before rest
    rw [List.singleton_append, ← htext] at hlies
    rw [ofSegments, ← byteLength_append]
    refine hlaid.cons_spelling hlies ?_ s.kind_ne_joinText ?_ ?_
    · exact fun hturns => hneTurn (Sign.kind_injective (t := .turn) hturns)
    · intro hmark u hu
      have hdigits : ¬ NoDigitHead rest := fun hnone => by
        have hfalse := (Option.any_eq_false isDigit _).mpr hnone
        rw [hnumber hmark] at hfalse
        cases hfalse
      obtain ⟨run, more, rfl⟩ := hrest.number_first.resolve_right hdigits
      rw [← Option.some.inj hu]
      exact ⟨rfl, rfl⟩
    · exact fun hjoins => absurd (Sign.kind_injective (t := .join) hjoins) hneJoin
  | @number run rest segs hne hrun hend _ ih =>
    have htext' : text = before ++ run ++ rest := by rw [htext, List.append_assoc]
    have hlaid := ih htext' (.inr hend)
    have hfront : ∀ c ∈ before.getLast?, isDigit c = false := by
      refine hbefore.resolve_right fun hhead => ?_
      obtain ⟨d, ds, rfl⟩ := List.exists_cons_of_ne_nil hne
      have hfirst := hhead d rfl
      rw [hrun d List.mem_cons_self] at hfirst
      cases hfirst
    have hlies := htext ▸ Token.lies_number hne hrun hfront hend
    rw [ofSegments, ← byteLength_append]
    exact hlaid.cons_plain hlies (.inl rfl)
  | @blank c rest segs hblank _ ih =>
    have htext' : text = before ++ [c] ++ rest := by simp [htext]
    have hlaid := ih htext' (.inl (hlast (isDigit_of_isBlank hblank) before))
    have hslice := Slice.of_append before [c] rest
    rw [List.singleton_append, ← htext, ← byteLength_append] at hslice
    rw [ofSegments, Segment.text, ← byteLength_append]
    · exact hlaid.of_blank ⟨[c], hslice, by simpa using hblank⟩
    · intro _ _ h
      cases h
  | @unknown c rest segs hjoin hturn hkind hdigit hblank _ ih =>
    have htext' : text = before ++ [c] ++ rest := by simp [htext]
    have hlaid := ih htext' (.inl (hlast hdigit before))
    have hlies := Token.lies_spelling .unknown (by decide) (List.cons_ne_nil c []) before rest
    rw [List.singleton_append, ← htext] at hlies
    rw [ofSegments, ← byteLength_append]
    exact hlaid.cons_plain hlies (.inr rfl)

end Segment

/-! ## Lines -/

/-- The tokens of a line are laid out in its trimmed text. -/
theorem laid_tokenize (line : String) :
    Token.Laid (trimmed line).toList 0 (tokenize line) := by
  rw [trimmed, String.toList_ofList]
  exact (Segment.cut_segments _).laid (List.nil_append _).symm (.inl (by simp))

namespace Token

/-- The end marker of a line stands at the length of its trimmed text. -/
theorem tokenize_eq (line : String) :
    tokenize line = lineTokens line ++ [atEnd (trimmed line).utf8ByteSize] := by
  obtain ⟨stop, htokens⟩ := exists_tokenize_eq line
  have hlast := (laid_tokenize line).last
  rw [htokens, List.getLast?_concat, ← utf8ByteSize_eq_byteLength] at hlast
  rw [htokens, Option.some.inj hlast]

theorem lies_of_mem_lineTokens {line : String} {t : Token} (h : t ∈ lineTokens line) :
    t.Lies (trimmed line).toList :=
  (laid_tokenize line).lies t (List.mem_of_mem_filter h) (sound_of_mem_lineTokens h).isEnd

theorem offset_le_stop (t : Token) : t.offset ≤ t.stop :=
  Nat.le_add_right t.offset _

/-- Tokens of which each is behind the one before are all in order. -/
theorem pairwise_of_isChain {text : List Char} {ts : List Token}
    (h : ts.IsChain (Follows text)) : ts.Pairwise fun t u => t.stop ≤ u.offset := by
  have : Trans (fun t u : Token => t.stop ≤ u.offset) (fun t u : Token => t.stop ≤ u.offset)
      (fun t u : Token => t.stop ≤ u.offset) :=
    ⟨fun {t u v} htu huv => htu.trans (u.offset_le_stop.trans huv)⟩
  exact List.isChain_iff_pairwise.mp (h.imp fun _ _ hfollows => hfollows.le)

theorem Lies.offset_lt_stop {text : List Char} {t : Token} (h : t.Lies text) :
    t.offset < t.stop := by
  obtain ⟨cs, hne, ⟨before, after, -, -, hstop⟩, -⟩ := h.slice
  rw [hstop]
  exact Nat.lt_add_of_pos_right (byteLength_pos hne)

end Token

/-- What is cut into tokens starts with no blank, and so the first token
stands at its start. -/
theorem offset_of_head? {line : String} {t : Token} (h : t ∈ (tokenize line).head?) :
    t.offset = 0 := by
  obtain ⟨blanks, ⟨before, after, htext, hbefore, hstop⟩, hblanks⟩ :=
    (laid_tokenize line).head t h
  obtain rfl : before = [] := byteLength_eq_zero_iff.mp hbefore.symm
  cases blanks with
  | nil => exact hstop
  | cons c blanks =>
    have hbare := (Text.bareEnds_trim line.toList).head c
    rw [trimmed, String.toList_ofList] at htext
    rw [htext] at hbare
    have hblank := hblanks c List.mem_cons_self
    rw [hbare rfl] at hblank
    cases hblank

/-- The first token of a line stands nowhere else on it. -/
theorem not_mem_of_tokenize {line : String} {t : Token} {rest : List Token}
    (h : tokenize line = t :: rest) : t ∉ rest := by
  have hlaid := laid_tokenize line
  have hpairwise := Token.pairwise_of_isChain hlaid.chain
  rw [h] at hpairwise
  intro hmem
  have hle : t.stop ≤ t.offset := (List.pairwise_cons.mp hpairwise).1 t hmem
  cases hend : t.isEnd with
  | false =>
    have hlt := (hlaid.lies t (h ▸ List.mem_cons_self) hend).offset_lt_stop
    omega
  | true =>
    -- the end marker is last, and nothing follows it
    rw [Token.tokenize_eq] at h
    cases hline : lineTokens line with
    | nil =>
      rw [hline] at h
      rw [← (List.cons.inj h).2] at hmem
      cases hmem
    | cons u us =>
      rw [hline] at h
      obtain rfl := (List.cons.inj h).1
      have hnot := (sound_of_mem_lineTokens (hline ▸ List.mem_cons_self)).isEnd
      rw [hend] at hnot
      cases hnot

/-- Cutting a line into tokens loses nothing. There is one end marker, last,
at the length of the trimmed line. Every other token is a slice of the trimmed
line, not empty and in capitals, or as it was written if it is free text; a
number is a whole run of digits. No token reaches into the next, and nothing
but blanks stands before the first token, between two, and behind the last,
save what follows `TURN`. A mark is followed by its number, without a blank.
`JOIN` is followed by a free text or nothing, and free text and `TURN` by
nothing. -/
theorem tokenize_lossless (line : String) :
    let text := (trimmed line).toList
    tokenize line = lineTokens line ++ [Token.atEnd (trimmed line).utf8ByteSize] ∧
    (∀ t ∈ lineTokens line, t.isEnd = false ∧ t.offset < t.stop ∧ t.Lies text) ∧
    (tokenize line).Pairwise (fun t u => t.stop ≤ u.offset) ∧
    (tokenize line).IsChain (Token.Follows text) ∧
    ∀ t ∈ (tokenize line).head?, t.offset = 0 := by
  have hlaid := laid_tokenize line
  refine ⟨Token.tokenize_eq line, fun t ht => ?_, Token.pairwise_of_isChain hlaid.chain,
    hlaid.chain, fun t ht => offset_of_head? ht⟩
  have hlies := Token.lies_of_mem_lineTokens ht
  exact ⟨(sound_of_mem_lineTokens ht).isEnd, hlies.offset_lt_stop, hlies⟩

end FleetOrders
