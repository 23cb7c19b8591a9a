/-
FleetOrders.Proofs.Colouring — colours on a line, and the line below them.

The loop that paints a line cuts it in pieces at places that were counted in
another text, the trimmed one. That every cut succeeds is a matter of the
layout of tokens: each is a slice of the trimmed text, and none reaches into
the next.

* `withoutColors` — a text without its colour sequences.
* `withoutColors_painted` — a painted text without them is the text.
* `Slice.within` — a slice of a text is one of every text around it.
* `exists_paintedFrom` — the loop, from a place up to which all is copied:
  every cut is made, and without colours the rest of the line is left.

`highlight_lossless` says it of lines.
-/
import FleetOrders.Highlight
import FleetOrders.Proofs.Layout

namespace FleetOrders

open Text (slice? trim trimStart trimEnd isBlank)

namespace Highlight

/-! ## Colours taken off -/

/-- The character with which a colour sequence starts. -/
def escape : Char := '\x1b'

/-- A text without its colour sequences, of which each goes from the escape
character up to the next `m`. `inside` says that the text starts in one. -/
def withoutColors (inside : Bool) : List Char → List Char
  | [] => []
  | c :: cs =>
    if inside then withoutColors (c != 'm') cs
    else if c = escape then withoutColors true cs
    else c :: withoutColors false cs

/-- One colour sequence. -/
def IsSequence (cs : List Char) : Prop :=
  ∃ body, cs = escape :: (body ++ ['m']) ∧ 'm' ∉ body

variable {cs body text : List Char}

theorem withoutColors_append (h : escape ∉ cs) (rest : List Char) :
    withoutColors false (cs ++ rest) = cs ++ withoutColors false rest := by
  induction cs with
  | nil => rfl
  | cons c cs ih =>
    obtain ⟨hc, hcs⟩ := List.ne_and_not_mem_of_not_mem_cons h
    rw [List.cons_append, withoutColors, if_neg Bool.false_ne_true, if_neg (Ne.symm hc), ih hcs]
    rfl

theorem withoutColors_of_plain (h : escape ∉ cs) : withoutColors false cs = cs := by
  have hall := withoutColors_append h []
  rwa [List.append_nil, withoutColors, List.append_nil] at hall

/-- A sequence ends at its first `m`. -/
theorem withoutColors_body (h : 'm' ∉ body) (rest : List Char) :
    withoutColors true (body ++ 'm' :: rest) = withoutColors false rest := by
  induction body with
  | nil => rfl
  | cons c body ih =>
    obtain ⟨hc, hbody⟩ := List.ne_and_not_mem_of_not_mem_cons h
    have hother : (c != 'm') = true := bne_iff_ne.mpr (Ne.symm hc)
    rw [List.cons_append, withoutColors, if_pos rfl, hother, ih hbody]

theorem IsSequence.withoutColors_append (h : IsSequence cs) (rest : List Char) :
    withoutColors false (cs ++ rest) = withoutColors false rest := by
  obtain ⟨body, rfl, hbody⟩ := h
  rw [List.cons_append, List.append_assoc, withoutColors, if_neg Bool.false_ne_true, if_pos rfl]
  exact withoutColors_body hbody rest

theorem isSequence_color {kind : TokenKind} {color : String} (h : color? kind = some color) :
    IsSequence color.toList := by
  refine ⟨(color.toList.drop 1).dropLast, ?_⟩
  cases kind <;> cases h <;> decide +kernel

theorem isSequence_reset : IsSequence reset.toList :=
  ⟨(reset.toList.drop 1).dropLast, by decide +kernel⟩

/-- Between its two sequences a painted text stands as it was. -/
theorem withoutColors_painted (h : escape ∉ text) (kind : TokenKind) (rest : List Char) :
    withoutColors false (painted kind text ++ rest) = text ++ withoutColors false rest := by
  rw [painted]
  cases hcolor : color? kind with
  | none => exact withoutColors_append h rest
  | some color =>
    dsimp only
    rw [List.append_assoc, List.append_assoc, (isSequence_color hcolor).withoutColors_append,
      withoutColors_append h, isSequence_reset.withoutColors_append]

end Highlight

/-! ## The places of the tokens in the line -/

/-- A slice of a text is one of every text around it. -/
theorem Slice.within {text cs : List Char} {start stop : Nat} (h : Slice text start stop cs)
    (front back : List Char) :
    Slice (front ++ (text ++ back)) (byteLength front + start) (byteLength front + stop) cs := by
  obtain ⟨before, after, rfl, rfl, rfl⟩ := h
  refine ⟨front ++ before, after ++ back, by simp only [List.append_assoc], ?_, ?_⟩
  · rw [byteLength_append]
  · rw [Nat.add_assoc]

/-- Of two cuts of one text, the part before the later one goes on from the
part before the other. -/
theorem exists_between {before rest upTo more : List Char} (h : before ++ rest = upTo ++ more)
    (hle : byteLength before ≤ byteLength upTo) :
    ∃ gap, upTo = before ++ gap ∧ rest = gap ++ more := by
  rcases List.append_eq_append_iff.mp h with ⟨gap, rfl, rfl⟩ | ⟨gap, rfl, rfl⟩
  · exact ⟨gap, rfl, rfl⟩
  · obtain rfl : gap = [] := by
      rw [byteLength_append] at hle
      exact byteLength_eq_zero_iff.mp (by omega)
    exact ⟨[], by simp, rfl⟩

namespace Highlight

/-- A line is what is left of it after trimming, between two texts of which
the first has the bytes of its indent. -/
theorem exists_line_eq (line : List Char) :
    ∃ front back, line = front ++ (trim line ++ back) ∧ indent line = byteLength front := by
  have hsplit : line.takeWhile isBlank ++ trimStart line = line := List.takeWhile_append_dropWhile
  obtain ⟨back, hback⟩ := Text.trimEnd_isPrefix (trimStart line)
  refine ⟨line.takeWhile isBlank, back, ?_, ?_⟩
  · rw [trim, hback, hsplit]
  · have hbytes := congrArg byteLength hsplit
    rw [byteLength_append] at hbytes
    rw [indent]
    omega

/-- The place of a token, moved by the indent, is a place in the line. -/
theorem exists_slice_of_mem {line : String} {t : Token} (ht : t ∈ lineTokens line) :
    ∃ cs, Slice line.toList (indent line.toList + t.offset) (indent line.toList + t.stop) cs ∧
      t.text.toList = if t.kind = .joinText then cs else cs.map Text.upper := by
  obtain ⟨cs, -, hslice, hspelled⟩ := (Token.lies_of_mem_lineTokens ht).slice
  rw [Text.trimmed, String.toList_ofList] at hslice
  obtain ⟨front, back, hline, hindent⟩ := exists_line_eq line.toList
  have hwithin := hslice.within front back
  rw [← hline, ← hindent] at hwithin
  exact ⟨cs, hwithin, hspelled⟩

/-! ## The loop -/

/-- From a place behind `before` on, up to which all is copied and behind
which all tokens lie, every cut is made. Without colours the rest of the
line is left. -/
theorem exists_paintedFrom {line : List Char} {lead : Nat} {ts : List Token}
    (hslices : ∀ t ∈ ts, ∃ cs, Slice line (lead + t.offset) (lead + t.stop) cs)
    (horder : ts.Pairwise fun t u => t.stop ≤ u.offset) {before rest : List Char}
    (hline : line = before ++ rest) (hbehind : ∀ t ∈ ts, byteLength before ≤ lead + t.offset) :
    ∃ shown, paintedFrom? line lead (byteLength before) ts = some shown ∧
      (escape ∉ rest → withoutColors false shown = rest) := by
  induction ts generalizing before rest with
  | nil =>
    have htail : Slice line (byteLength before) (byteLength line) rest :=
      ⟨before, [], by rw [List.append_nil, hline], rfl, by rw [hline, byteLength_append]⟩
    exact ⟨rest, Slice.slice?_eq_some_iff.mpr htail, withoutColors_of_plain⟩
  | cons t ts ih =>
    obtain ⟨hnext, horder⟩ := List.pairwise_cons.mp horder
    obtain ⟨cs, htoken⟩ := hslices t List.mem_cons_self
    have htext := Slice.slice?_eq_some_iff.mpr htoken
    obtain ⟨upTo, after, hcut, hstart, hstop⟩ := htoken
    obtain ⟨gap, rfl, rfl⟩ := exists_between (hline.symm.trans hcut)
      (hstart ▸ hbehind t List.mem_cons_self)
    have hgap : Slice line (byteLength before) (lead + t.offset) gap :=
      ⟨before, cs ++ after, hline, rfl, by rw [hstart, byteLength_append]⟩
    have hcopied : lead + t.stop = byteLength (before ++ gap ++ cs) := by
      rw [hstop, hstart, byteLength_append _ cs]
    have hbehind' : ∀ u ∈ ts, byteLength (before ++ gap ++ cs) ≤ lead + u.offset := by
      intro u hu
      have hle := hnext u hu
      omega
    obtain ⟨shown, hshown, hplain⟩ := ih (fun u hu => hslices u (List.mem_cons_of_mem t hu)) horder
      (by rw [hcut, List.append_assoc _ cs]) hbehind'
    refine ⟨gap ++ painted t.kind cs ++ shown, ?_, fun hnone => ?_⟩
    · rw [paintedFrom?, htext]
      simp only [Slice.slice?_eq_some_iff.mpr hgap, hcopied, hshown, Option.bind_eq_bind,
        Option.bind_some]
    · simp only [List.mem_append, not_or] at hnone
      obtain ⟨hngap, hncs, hnafter⟩ := hnone
      rw [List.append_assoc, withoutColors_append hngap, withoutColors_painted hncs,
        hplain hnafter]

end Highlight

/-- Highlighting only adds colours. Whether colours are on or off, every cut
that it makes in a line is one at places of the line: the line is shown, and
no token is passed over. If the line has no escape character, then what is
shown without colours is the line. -/
theorem highlight_lossless (color : Bool) (line : String) :
    highlight? color line = some (highlight color line) ∧
    (∀ t ∈ lineTokens line, ∃ cs,
      slice? (Highlight.indent line.toList + t.offset) (Highlight.indent line.toList + t.stop)
        line.toList = some cs ∧
      t.text.toList = if t.kind = .joinText then cs else cs.map Text.upper) ∧
    (Highlight.escape ∉ line.toList →
      Highlight.withoutColors false (highlight color line).toList = line.toList) := by
  have hshown : ∃ shown, highlight? color line = some shown ∧
      (Highlight.escape ∉ line.toList →
        Highlight.withoutColors false shown.toList = line.toList) := by
    rw [highlight?]
    split
    case isTrue =>
      have horder : (lineTokens line).Pairwise fun t u => t.stop ≤ u.offset :=
        (Token.pairwise_of_isChain (laid_tokenize line).chain).filter _
      obtain ⟨shown, hpainted, hplain⟩ := Highlight.exists_paintedFrom
        (fun t ht => (Highlight.exists_slice_of_mem ht).imp fun _ h => h.1) horder
        (List.nil_append line.toList).symm fun t _ => Nat.zero_le _
      refine ⟨String.ofList shown, ?_, fun hnone => ?_⟩
      · exact Option.map_eq_some_iff.mpr ⟨shown, hpainted, rfl⟩
      · rw [String.toList_ofList, hplain hnone]
    case isFalse => exact ⟨line, rfl, Highlight.withoutColors_of_plain⟩
  obtain ⟨shown, hshown, hplain⟩ := hshown
  have hline : highlight color line = shown := by rw [highlight, hshown]; rfl
  refine ⟨hline ▸ hshown, fun t ht => ?_, hline ▸ hplain⟩
  obtain ⟨cs, hslice, hspelled⟩ := Highlight.exists_slice_of_mem ht
  exact ⟨cs, Slice.slice?_eq_some_iff.mpr hslice, hspelled⟩

/-- A wide blank leads the line, and a letter of two bytes stands before
others. -/
theorem highlight_lossless_demo :
    Highlight.escape ∉ "\u2003f5é  w1A? ".toList ∧
    Highlight.withoutColors false (highlight true "\u2003f5é  w1A? ").toList =
      "\u2003f5é  w1A? ".toList := by
  have hplain : Highlight.escape ∉ "\u2003f5é  w1A? ".toList := by decide +kernel
  exact ⟨hplain, (highlight_lossless true "\u2003f5é  w1A? ").2.2 hplain⟩

end FleetOrders
