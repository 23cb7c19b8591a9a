/-
FleetOrders.Proofs.Capitals — a line and its capitals are cut alike.

The ASCII case of a letter decides nothing: whether a character is blank or
a digit, how many bytes it takes, and its Unicode lower case are the same
for a small letter and its capital (`Text.apply_upper` leaves 26 letters to
be looked at). So trimming, cutting and lower-casing the capitals of a text
gives the capitals of what the text itself gives.

* `Text.SameLetters` — two texts equal but for the ASCII case of letters.
* `Text.lowerCase_map_upper` — such texts have one lower case.
* `tokenize_capitals` — the tokens of the capitals of a line are the
  capitals of its tokens.
* `tokenize_alike` — the tokens of two such lines differ in nothing but the
  case of the free text after `JOIN`.
-/
import FleetOrders.Proofs.Lexemes
import FleetOrders.Text.LowerCase
import Mathlib.Data.List.Forall2

namespace FleetOrders

open Text (isBlank isDigit upper dropWord? trim trimmed)

namespace Text

/-! ## Characters -/

/-- Where the 26 small letters and their capitals have the same value, every
character has the value of its capital. -/
theorem apply_upper {β : Type} {f : Char → β}
    (h : ∀ n, n < 26 → f (Char.ofNat (65 + n)) = f (Char.ofNat (97 + n))) (c : Char) :
    f (upper c) = f c := by
  unfold upper
  split
  · next hsmall =>
    have hlow : 97 ≤ c.toNat := hsmall.1
    have hhigh : c.toNat ≤ 122 := hsmall.2
    have hc := h (c.toNat - 97) (by omega)
    rw [show 65 + (c.toNat - 97) = c.toNat - 32 by omega,
      show 97 + (c.toNat - 97) = c.toNat by omega, Char.ofNat_toNat] at hc
    exact hc
  · rfl

@[simp] theorem upper_upper (c : Char) : upper (upper c) = upper c :=
  apply_upper (f := upper) (by decide) c

@[simp] theorem isDigit_upper (c : Char) : isDigit (upper c) = isDigit c :=
  apply_upper (f := isDigit) (by decide) c

@[simp] theorem isBlank_upper (c : Char) : isBlank (upper c) = isBlank c :=
  apply_upper (f := isBlank) (by decide) c

@[simp] theorem utf8Size_upper (c : Char) : (upper c).utf8Size = c.utf8Size :=
  apply_upper (f := Char.utf8Size) (by decide) c

/-! ## Texts -/

/-- The texts are equal but for the ASCII case of letters. -/
def SameLetters (a b : String) : Prop :=
  a.toList.map upper = b.toList.map upper

instance (a b : String) : Decidable (SameLetters a b) :=
  inferInstanceAs (Decidable (_ = _))

theorem comp_upper {β : Type} {f : Char → β} (h : ∀ c, f (upper c) = f c) : f ∘ upper = f :=
  funext h

@[simp] theorem trimStart_map_upper (cs : List Char) :
    trimStart (cs.map upper) = (trimStart cs).map upper := by
  rw [trimStart, trimStart, List.dropWhile_map, comp_upper isBlank_upper]

@[simp] theorem trimEnd_map_upper (cs : List Char) :
    trimEnd (cs.map upper) = (trimEnd cs).map upper := by
  rw [trimEnd, trimEnd, ← List.map_reverse, List.dropWhile_map, comp_upper isBlank_upper,
    List.map_reverse]

@[simp] theorem trim_map_upper (cs : List Char) : trim (cs.map upper) = (trim cs).map upper := by
  rw [trim, trim, trimStart_map_upper, trimEnd_map_upper]

theorem SameLetters.trimmed {a b : String} (h : SameLetters a b) :
    SameLetters (trimmed a) (trimmed b) := by
  have htrim := congrArg trim h
  simpa [SameLetters, Text.trimmed] using htrim

theorem SameLetters.eq_empty_iff {a b : String} (h : SameLetters a b) : a = "" ↔ b = "" := by
  rw [← String.toList_eq_nil_iff, ← String.toList_eq_nil_iff, ← List.map_eq_nil_iff (f := upper),
    ← List.map_eq_nil_iff (f := upper) (l := b.toList), h]

/-- A word heads the capitals of a text when it heads the text, and leaves
the capitals of what it leaves there. -/
theorem dropWord?_map_upper (word text : List Char) :
    dropWord? word (text.map upper) = (dropWord? word text).map (·.map upper) := by
  induction word generalizing text with
  | nil => rfl
  | cons w word ih =>
    cases text with
    | nil => rfl
    | cons c text =>
      have hsame : sameLetter w (upper c) = sameLetter w c := by simp [sameLetter]
      rw [List.map_cons, dropWord?, dropWord?, hsame]
      split
      · exact ih text
      · rfl

/-! ## Lower case -/

namespace LowerCase

@[simp] theorem ofChar_upper (c : Char) : ofChar (upper c) = ofChar c :=
  apply_upper (f := ofChar) (by decide +kernel) c

@[simp] theorem isCased_upper (c : Char) : isCased (upper c) = isCased c :=
  apply_upper (f := isCased) (by decide +kernel) c

@[simp] theorem isIgnorable_upper (c : Char) : isIgnorable (upper c) = isIgnorable c :=
  apply_upper (f := isIgnorable) (by decide +kernel) c

/-- The letter with a lower case that depends on its neighbours is not an
ASCII letter. -/
theorem upper_eq_sigma_iff (c : Char) : upper c = 'Σ' ↔ c = 'Σ' := by
  have h := apply_upper (f := fun c => decide (c = 'Σ')) (by decide) c
  simpa using h

@[simp] theorem meetsCased_map_upper (cs : List Char) :
    meetsCased (cs.map upper) = meetsCased cs := by
  rw [meetsCased, meetsCased, List.dropWhile_map, comp_upper isIgnorable_upper]
  cases cs.dropWhile isIgnorable with
  | nil => rfl
  | cons c rest => exact isCased_upper c

theorem following_map_upper (before cs : List Char) :
    following (before.map upper) (cs.map upper) = following before cs := by
  induction cs generalizing before with
  | nil => rfl
  | cons c rest ih =>
    have hrest := ih (c :: before)
    rw [List.map_cons] at hrest
    simp only [List.map_cons, following, upper_eq_sigma_iff, meetsCased_map_upper, ofChar_upper,
      hrest]

end LowerCase

/-- A text has the lower case of its capitals. -/
@[simp] theorem lowerCase_map_upper (cs : List Char) : lowerCase (cs.map upper) = lowerCase cs :=
  LowerCase.following_map_upper [] cs

theorem SameLetters.lowerCase {a b : String} (h : SameLetters a b) :
    lowerCase a.toList = lowerCase b.toList := by
  rw [← lowerCase_map_upper, h, lowerCase_map_upper]

end Text

/-! ## Segments -/

namespace Segment

/-- The segment of the capitals. -/
def capitals : Segment → Segment
  | .lexeme kind cs => .lexeme kind (cs.map upper)
  | .space c => .space (upper c)
  | .unread cs => .unread (cs.map upper)

theorem letterKind?_upper (c : Char) (next : Option Char) :
    letterKind? (upper c) (next.map upper) = letterKind? c next := by
  have hnext : (next.map upper).any isDigit = next.any isDigit := by
    cases next <;> simp
  rw [letterKind?, letterKind?, Text.upper_upper, hnext]

theorem consDigit_capitals (c : Char) (segs : List Segment) :
    consDigit (upper c) (segs.map capitals) = (consDigit c segs).map capitals := by
  cases segs with
  | nil => rfl
  | cons s more =>
    cases s with
    | lexeme kind ds => cases kind <;> rfl
    | space => rfl
    | unread => rfl

theorem afterJoin_map_upper (tail : List Char) :
    afterJoin (tail.map upper) = (afterJoin tail).map capitals := by
  rw [afterJoin, afterJoin, List.takeWhile_map, List.dropWhile_map,
    Text.comp_upper Text.isBlank_upper, List.map_append, List.map_map, List.map_map]
  congr 1
  cases tail.dropWhile isBlank with
  | nil => rfl
  | cons c free => rfl

/-- The capitals of a text are cut as the text is. -/
theorem segments_map_upper (cs : List Char) :
    segments (cs.map upper) = (segments cs).map capitals := by
  have hword : ∀ (word : List Char) (c : Char) (rest : List Char),
      dropWord? word (upper c :: rest.map upper) =
        (dropWord? word (c :: rest)).map (·.map upper) :=
    fun word c rest => Text.dropWord?_map_upper word (c :: rest)
  have htake : ∀ (c : Char) (rest : List Char),
      (upper c :: rest.map upper).take 4 = ((c :: rest).take 4).map upper :=
    fun c rest => (List.map_take (l := c :: rest)).symm
  fun_induction segments cs with
  | case1 => rfl
  | case2 c rest tail hjoin =>
    simp only [List.map_cons, segments, hword, hjoin, Option.map_some, htake,
      afterJoin_map_upper, capitals]
  | case3 c rest hno tail hturn =>
    have htail : afterTurn (tail.map upper) = (afterTurn tail).map capitals := by
      cases tail <;> rfl
    simp only [List.map_cons, segments, hword, hno, hturn, Option.map_some, Option.map_none,
      htake, htail, capitals]
  | case4 c rest hnoJoin hnoTurn kind hletter ih =>
    simp only [List.map_cons, segments, hword, hnoJoin, hnoTurn, Option.map_none, List.head?_map,
      letterKind?_upper, hletter, ih, capitals, List.map_nil]
  | case5 c rest hnoJoin hnoTurn hletter hdigit ih =>
    simp only [List.map_cons, segments, hword, hnoJoin, hnoTurn, Option.map_none, List.head?_map,
      letterKind?_upper, hletter, Text.isDigit_upper, hdigit, if_true, ih, consDigit_capitals]
  | case6 c rest hnoJoin hnoTurn hletter hdigit hblank ih =>
    simp [segments, hword, hnoJoin, hnoTurn, letterKind?_upper, hletter, hdigit, hblank, ih,
      capitals]
  | case7 c rest hnoJoin hnoTurn hletter hdigit hblank ih =>
    simp [segments, hword, hnoJoin, hnoTurn, letterKind?_upper, hletter, hdigit, hblank, ih,
      capitals]

end Segment

/-! ## Tokens -/

namespace Token

/-- The token with its text in capitals. -/
def capitals (t : Token) : Token :=
  { t with text := String.ofList (t.text.toList.map upper) }

theorem byteLength_map_upper (cs : List Char) : byteLength (cs.map upper) = byteLength cs := by
  induction cs with
  | nil => rfl
  | cons c cs ih => simp [byteLength, ih]

theorem spelling_map_upper (kind : TokenKind) (cs : List Char) :
    spelling kind (cs.map upper) = String.ofList ((spelling kind cs).toList.map upper) := by
  unfold spelling
  split <;> simp

theorem ofSegments_capitals (offset : Nat) (segs : List Segment) :
    ofSegments offset (segs.map Segment.capitals) = (ofSegments offset segs).map capitals := by
  fun_induction ofSegments offset segs with
  | case1 offset => rfl
  | case2 offset kind cs rest ih =>
    simp [ofSegments, Segment.capitals, byteLength_map_upper, spelling_map_upper, capitals, ih]
  | case3 offset s rest hno ih =>
    cases s with
    | lexeme kind cs => exact absurd rfl (hno kind cs)
    | space c => simpa [ofSegments, Segment.capitals, Segment.text, byteLength] using ih
    | unread cs =>
      simpa [ofSegments, Segment.capitals, Segment.text, byteLength_map_upper] using ih

end Token

/-- The capitals of a line have the capitals of its tokens. -/
theorem tokenize_capitals {a b : String} (h : b.toList = a.toList.map upper) :
    tokenize b = (tokenize a).map Token.capitals := by
  rw [tokenize, tokenize, h, Text.trim_map_upper, Segment.segments_map_upper,
    Token.ofSegments_capitals]

namespace Token

/-- Every token but the free text of `JOIN` is written in capitals. -/
theorem capitals_of_mem {line : String} {t : Token} (ht : t ∈ tokenize line)
    (hkind : t.kind ≠ .joinText) : t.capitals = t := by
  obtain ⟨stop, htokens⟩ := exists_tokenize_eq line
  cases hend : t.isEnd with
  | true =>
    have hnot : t ∉ lineTokens line := fun hmem => by
      simp [(sound_of_mem_lineTokens hmem).isEnd] at hend
    rw [htokens, List.mem_append, List.mem_singleton] at ht
    rw [ht.resolve_left hnot]
    rfl
  | false =>
    obtain ⟨cs, -, htext⟩ := exists_of_mem_ofSegments ht hend
    have hcapitals : t.text.toList.map upper = t.text.toList := by
      rw [htext, spelling, if_neg hkind]
      simp
    rw [capitals, hcapitals, String.ofList_toList]

/-- The tokens differ in nothing but the case of free text. -/
structure Alike (t u : Token) : Prop where
  kind : t.kind = u.kind
  offset : t.offset = u.offset
  text : t.kind ≠ .joinText → t.text = u.text
  letters : Text.SameLetters t.text u.text

theorem Alike.eq {t u : Token} (h : t.Alike u) (hkind : t.kind ≠ .joinText) : t = u := by
  obtain ⟨kind, text, offset⟩ := t
  obtain ⟨hkinds, hoffset, htext, -⟩ := h
  cases u
  simp_all

theorem alike_of_capitals {a b : String} {t u : Token} (ht : t ∈ tokenize a) (hu : u ∈ tokenize b)
    (h : t.capitals = u.capitals) : t.Alike u := by
  have hkind : t.kind = u.kind := (congrArg Token.kind h : t.capitals.kind = u.capitals.kind)
  have hoffset : t.capitals.offset = u.capitals.offset := congrArg Token.offset h
  refine ⟨hkind, hoffset, ?_, ?_⟩
  · intro hfree
    rw [← capitals_of_mem ht hfree, h, capitals_of_mem hu (hkind ▸ hfree)]
  · exact String.ofList_injective (congrArg Token.text h)

end Token

/-- Two lines that differ in the case of letters only have the same tokens,
but for the case of free text. -/
theorem tokenize_alike {a b : String} (h : Text.SameLetters a b) :
    List.Forall₂ Token.Alike (tokenize a) (tokenize b) := by
  have hcapitals : (tokenize a).map Token.capitals = (tokenize b).map Token.capitals := by
    rw [← tokenize_capitals (a := a) (b := String.ofList (a.toList.map upper)) (by simp),
      ← tokenize_capitals (a := b) (b := String.ofList (b.toList.map upper)) (by simp), h]
  rw [← List.forall₂_eq_eq_eq, List.forall₂_map_left_iff, List.forall₂_map_right_iff] at hcapitals
  rw [List.forall₂_iff_zip] at hcapitals ⊢
  refine ⟨hcapitals.1, fun hmem => ?_⟩
  have hmems := List.of_mem_zip hmem
  exact Token.alike_of_capitals hmems.1 hmems.2 (hcapitals.2 hmem)

end FleetOrders
