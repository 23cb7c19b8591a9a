/-
FleetOrders.Proofs.Cutting — how a text is cut into segments, told as rules.

`Segment.segments` goes over a text a character at a time and joins digits to
numbers on its way back. What is proved about segments asks for whole pieces:
a word, a letter, a number from its first digit to its last, a blank.

* `Segment.Cut` — the rules by which a text is cut, a piece at a time.
* `Segment.cut_segments` — the segments of a text are cut by these rules, so
  that facts about them are proved by induction on the rules.
* `Token.ofSegments_afterJoin`, `Token.ofSegments_afterTurn` — the tokens
  behind the two words.
* `Segment.Cut.number_first` — a text starts with a number, or with no digit.
-/
import FleetOrders.Proofs.Capitals
import FleetOrders.Proofs.Spellings
import Mathlib.Data.List.Induction
import Mathlib.Data.List.TakeWhile

namespace FleetOrders

open Text (isBlank isDigit upper dropWord?)

/-! ## Bytes -/

theorem byteLength_append (cs ds : List Char) :
    byteLength (cs ++ ds) = byteLength cs + byteLength ds := by
  induction cs with
  | nil => simp [byteLength]
  | cons c cs ih => simp [byteLength, ih, Nat.add_assoc]

theorem byteLength_eq_zero_iff {cs : List Char} : byteLength cs = 0 ↔ cs = [] := by
  constructor
  · intro h
    cases cs with
    | nil => rfl
    | cons c cs =>
      have hpos := c.utf8Size_pos
      rw [byteLength] at h
      omega
  · rintro rfl
    rfl

theorem byteLength_pos {cs : List Char} (h : cs ≠ []) : 0 < byteLength cs :=
  Nat.pos_of_ne_zero (mt byteLength_eq_zero_iff.mp h)

theorem utf8ByteSize_eq_byteLength (s : String) : s.utf8ByteSize = byteLength s.toList := by
  have hchars : ∀ cs : List Char, (String.ofList cs).utf8ByteSize = byteLength cs := by
    intro cs
    induction cs with
    | nil => rfl
    | cons c cs ih =>
      rw [← List.singleton_append, String.ofList_append, String.utf8ByteSize_append, ih,
        byteLength_append]
      simp [byteLength]
  rw [← hchars, String.ofList_toList]

/-- A token takes as many bytes as the lexeme it was cut from. -/
theorem Token.utf8ByteSize_spelling (kind : TokenKind) (cs : List Char) :
    (spelling kind cs).utf8ByteSize = byteLength cs := by
  rw [utf8ByteSize_eq_byteLength, spelling, String.toList_ofList]
  split
  · rfl
  · exact byteLength_map_upper cs

/-! ## Marks -/

/-- A token of the kind is a mark: the number that it marks stands right
behind it. -/
def TokenKind.IsMark (kind : TokenKind) : Prop :=
  kind = .fleetMark ∨ kind = .worldMark

instance (kind : TokenKind) : Decidable kind.IsMark :=
  inferInstanceAs (Decidable (_ ∨ _))

namespace Segment

/-! ## Single pieces -/

theorem dropWord?_append {head word : List Char} (h : head.map upper = word.map upper)
    (tail : List Char) : dropWord? word (head ++ tail) = some tail := by
  induction head generalizing word with
  | nil =>
    obtain rfl : word = [] := by simpa using h.symm
    rfl
  | cons c head ih =>
    cases word with
    | nil => simp at h
    | cons w word =>
      rw [List.map_cons, List.map_cons, List.cons.injEq] at h
      rw [List.cons_append, dropWord?, if_pos (by simp [Text.sameLetter, h.1])]
      exact ih h.2

theorem exists_head_of_dropWord? {word cs tail : List Char} (h : dropWord? word cs = some tail) :
    ∃ head, cs = head ++ tail ∧ head.map upper = word.map upper :=
  ⟨cs.take word.length, (append_of_dropWord? h).symm, map_upper_take_of_dropWord? h⟩

theorem isDigit_of_isBlank {c : Char} (h : isBlank c = true) : isDigit c = false := by
  by_contra hdigit
  rw [Text.isBlank_of_isDigit (by simpa using hdigit)] at h
  cases h

theorem letterKind?_of_isBlank {c : Char} (h : isBlank c = true) (next : Option Char) :
    letterKind? c next = none := by
  have hupper : isBlank (upper c) = true := by simpa using h
  unfold letterKind?
  generalize upper c = u at hupper ⊢
  split
  case h_8 => rfl
  all_goals exact absurd hupper (by decide)

/-- A letter that is cut off alone is a sign, and neither of the two
words. -/
theorem exists_sign_of_letterKind? {c : Char} {next : Option Char} {kind : TokenKind}
    (h : letterKind? c next = some kind) : ∃ s : Sign, kind = s.kind ∧ s ≠ .join ∧ s ≠ .turn := by
  unfold letterKind? at h
  split at h
  · split at h <;> cases h
    exact ⟨.fleetMark, rfl, nofun, nofun⟩
  · split at h <;> cases h
    exact ⟨.worldMark, rfl, nofun, nofun⟩
  · cases h; exact ⟨.build, rfl, nofun, nofun⟩
  · cases h; exact ⟨.transfer, rfl, nofun, nofun⟩
  · cases h; exact ⟨.attack, rfl, nofun, nofun⟩
  · cases h; exact ⟨.industry, rfl, nofun, nofun⟩
  · cases h; exact ⟨.population, rfl, nofun, nofun⟩
  · cases h

/-- A letter that is cut off alone is no digit, and if it is a mark, then
because a digit follows. -/
theorem letterKind?_facts {c : Char} {next : Option Char} {kind : TokenKind}
    (h : letterKind? c next = some kind) :
    isDigit c = false ∧ (kind.IsMark → next.any isDigit = true) := by
  constructor
  · by_contra hdigit
    rw [letterKind?_of_isDigit (by simpa using hdigit)] at h
    cases h
  · intro hmark
    unfold letterKind? at h
    split at h
    · split at h
      · assumption
      · cases h
    · split at h
      · assumption
      · cases h
    all_goals cases h <;> exact absurd hmark (by decide)

/-- No blank is a letter of a word. -/
theorem upper_ne_of_isBlank {w c : Char} (hw : isBlank w = false) (hc : isBlank c = true) :
    upper w ≠ upper c := by
  intro h
  have hsame := congrArg isBlank h
  rw [Text.isBlank_upper, Text.isBlank_upper, hw, hc] at hsame
  cases hsame

theorem segments_blank {c : Char} (hc : isBlank c = true) (rest : List Char) :
    segments (c :: rest) = .space c :: segments rest := by
  have hjoin : dropWord? ['J', 'O', 'I', 'N'] (c :: rest) = none :=
    dropWord?_of_ne (upper_ne_of_isBlank (by decide) hc) _ rest
  have hturn : dropWord? ['T', 'U', 'R', 'N'] (c :: rest) = none :=
    dropWord?_of_ne (upper_ne_of_isBlank (by decide) hc) _ rest
  rw [segments, hjoin, hturn, letterKind?_of_isBlank hc]
  simp [isDigit_of_isBlank hc, hc]

/-- The two words are cut off wherever they stand. -/
theorem segments_join_append {head : List Char} (h : head.map upper = ['J', 'O', 'I', 'N'])
    (tail : List Char) : segments (head ++ tail) = .lexeme .join head :: afterJoin tail := by
  have hword : dropWord? ['J', 'O', 'I', 'N'] (head ++ tail) = some tail :=
    dropWord?_append (h.trans (by decide)) tail
  have hlength : head.length = 4 := by simpa using congrArg List.length h
  cases head with
  | nil => cases hlength
  | cons c head =>
    rw [List.cons_append] at hword ⊢
    rw [segments, hword, ← List.cons_append, ← hlength, List.take_left]

theorem segments_turn_append {head : List Char} (h : head.map upper = ['T', 'U', 'R', 'N'])
    (tail : List Char) : segments (head ++ tail) = .lexeme .turn head :: afterTurn tail := by
  have hword : dropWord? ['T', 'U', 'R', 'N'] (head ++ tail) = some tail :=
    dropWord?_append (h.trans (by decide)) tail
  have hlength : head.length = 4 := by simpa using congrArg List.length h
  cases head with
  | nil => cases hlength
  | cons c head =>
    have hjoin : dropWord? ['J', 'O', 'I', 'N'] (c :: head ++ tail) = none := by
      rw [List.map_cons, List.cons.injEq] at h
      exact dropWord?_of_ne (by rw [h.1]; decide) _ _
    rw [List.cons_append] at hword hjoin ⊢
    rw [segments, hjoin, hword, ← List.cons_append, ← hlength, List.take_left]

theorem segments_unknown {c : Char} {rest : List Char}
    (hjoin : dropWord? ['J', 'O', 'I', 'N'] (c :: rest) = none)
    (hturn : dropWord? ['T', 'U', 'R', 'N'] (c :: rest) = none)
    (hkind : letterKind? c rest.head? = none) (hdigit : isDigit c = false)
    (hblank : isBlank c = false) :
    segments (c :: rest) = .lexeme .unknown [c] :: segments rest := by
  simp [segments, hjoin, hturn, hkind, hdigit, hblank]

/-- A text that starts with a digit starts with a number that ends. -/
theorem exists_run {c : Char} (hc : isDigit c = true) (rest : List Char) :
    ∃ run tail, c :: rest = run ++ tail ∧ run ≠ [] ∧ (∀ d ∈ run, isDigit d = true) ∧
      NoDigitHead tail := by
  refine ⟨c :: rest.takeWhile isDigit, rest.dropWhile isDigit, ?_, List.cons_ne_nil _ _, ?_, ?_⟩
  · rw [List.cons_append, List.takeWhile_append_dropWhile]
  · exact List.forall_mem_cons.mpr ⟨hc, fun d hd => List.mem_takeWhile_imp hd⟩
  · intro d hd
    have hhead := List.head?_dropWhile_not isDigit rest
    rw [Option.mem_def.mp hd] at hhead
    simpa using hhead

/-! ## The rules -/

/-- The text is cut into the segments, a piece at a time: the two words
before all else, then a letter that is a sign, a number from its first digit to
its last, a blank, and what is none of these. -/
inductive Cut : List Char → List Segment → Prop where
  | nil : Cut [] []
  | join {head : List Char} (h : head.map upper = ['J', 'O', 'I', 'N']) (tail : List Char) :
      Cut (head ++ tail) (.lexeme .join head :: afterJoin tail)
  | turn {head : List Char} (h : head.map upper = ['T', 'U', 'R', 'N']) (tail : List Char) :
      Cut (head ++ tail) (.lexeme .turn head :: afterTurn tail)
  | letter {c : Char} {rest : List Char} {kind : TokenKind} {segs : List Segment}
      (hjoin : dropWord? ['J', 'O', 'I', 'N'] (c :: rest) = none)
      (hturn : dropWord? ['T', 'U', 'R', 'N'] (c :: rest) = none)
      (hkind : letterKind? c rest.head? = some kind) :
      Cut rest segs → Cut (c :: rest) (.lexeme kind [c] :: segs)
  | number {run rest : List Char} {segs : List Segment} (hne : run ≠ [])
      (hrun : ∀ d ∈ run, isDigit d = true) (hend : NoDigitHead rest) :
      Cut rest segs → Cut (run ++ rest) (.lexeme .number run :: segs)
  | blank {c : Char} {rest : List Char} {segs : List Segment} (h : isBlank c = true) :
      Cut rest segs → Cut (c :: rest) (.space c :: segs)
  | unknown {c : Char} {rest : List Char} {segs : List Segment}
      (hjoin : dropWord? ['J', 'O', 'I', 'N'] (c :: rest) = none)
      (hturn : dropWord? ['T', 'U', 'R', 'N'] (c :: rest) = none)
      (hkind : letterKind? c rest.head? = none) (hdigit : isDigit c = false)
      (hblank : isBlank c = false) :
      Cut rest segs → Cut (c :: rest) (.lexeme .unknown [c] :: segs)

/-- The segments of a text are cut by the rules. The induction is on the
length of the text, since a number takes more than one character. -/
theorem cut_segments (cs : List Char) : Cut cs (segments cs) := by
  induction hlength : cs.length using Nat.strong_induction_on generalizing cs with
  | _ n ih =>
    cases cs with
    | nil => exact .nil
    | cons c rest =>
      have hrest : Cut rest (segments rest) := ih _ (hlength ▸ Nat.lt_succ_self _) rest rfl
      cases hjoin : dropWord? ['J', 'O', 'I', 'N'] (c :: rest) with
      | some tail =>
        obtain ⟨head, htext, hhead⟩ := exists_head_of_dropWord? hjoin
        rw [htext, segments_join_append hhead]
        exact .join hhead tail
      | none =>
      cases hturn : dropWord? ['T', 'U', 'R', 'N'] (c :: rest) with
      | some tail =>
        obtain ⟨head, htext, hhead⟩ := exists_head_of_dropWord? hturn
        rw [htext, segments_turn_append hhead]
        exact .turn hhead tail
      | none =>
      cases hkind : letterKind? c rest.head? with
      | some kind =>
        rw [segments_letter hjoin hturn hkind]
        exact .letter hjoin hturn hkind hrest
      | none =>
      by_cases hdigit : isDigit c = true
      · obtain ⟨run, tail, htext, hne, hrun, hend⟩ := exists_run hdigit rest
        have hshorter : tail.length < n := by
          have hpos := List.length_pos_iff.mpr hne
          rw [← hlength, htext, List.length_append]
          omega
        rw [htext, segments_digits hne hrun hend]
        exact .number hne hrun hend (ih _ hshorter tail rfl)
      · by_cases hblank : isBlank c = true
        · rw [segments_blank hblank]
          exact .blank hblank hrest
        · rw [Bool.not_eq_true] at hdigit hblank
          rw [segments_unknown hjoin hturn hkind hdigit hblank]
          exact .unknown hjoin hturn hkind hdigit hblank hrest

/-- The letters of the two words are no digits. -/
theorem noDigitHead_of_map_upper {s : Sign} {head : List Char} (h : head.map upper = s.letters)
    (tail : List Char) : NoDigitHead (head ++ tail) := by
  cases head with
  | nil => cases s <;> cases h
  | cons c head =>
    refine noDigitHead_cons ?_ _
    have hletters := noDigitHead_letters s []
    rw [List.append_nil, ← h] at hletters
    simpa using hletters (upper c) rfl

/-- A text starts with a number, or with no digit. -/
theorem Cut.number_first {cs : List Char} {segs : List Segment} (h : Cut cs segs) :
    (∃ run more, segs = .lexeme .number run :: more) ∨ NoDigitHead cs := by
  cases h with
  | nil => exact .inr noDigitHead_nil
  | join h tail => exact .inr (noDigitHead_of_map_upper (s := .join) h tail)
  | turn h tail => exact .inr (noDigitHead_of_map_upper (s := .turn) h tail)
  | letter _ _ hkind => exact .inr (noDigitHead_cons (letterKind?_facts hkind).1 _)
  | number => exact .inl ⟨_, _, rfl⟩
  | blank h => exact .inr (noDigitHead_cons (isDigit_of_isBlank h) _)
  | unknown _ _ _ hdigit => exact .inr (noDigitHead_cons hdigit _)

end Segment

/-! ## The tokens behind the two words -/

namespace Token

theorem ofSegments_map_space (offset : Nat) (blanks : List Char) (more : List Segment) :
    ofSegments offset (blanks.map .space ++ more) =
      ofSegments (offset + byteLength blanks) more := by
  induction blanks generalizing offset with
  | nil => rfl
  | cons c blanks ih =>
    rw [List.map_cons, List.cons_append, ofSegments, ih]
    · simp [Segment.text, byteLength, Nat.add_assoc]
    · intro _ _ h
      cases h

/-- Behind `JOIN` there is the free text and the end of the line, or the
end alone. -/
theorem ofSegments_afterJoin (offset : Nat) (tail : List Char) :
    ofSegments offset (Segment.afterJoin tail) =
      match tail.dropWhile isBlank with
      | [] => [atEnd (offset + byteLength tail)]
      | free =>
        [⟨.joinText, spelling .joinText free, offset + byteLength (tail.takeWhile isBlank)⟩,
          atEnd (offset + byteLength tail)] := by
  have hbytes : byteLength tail =
      byteLength (tail.takeWhile isBlank) + byteLength (tail.dropWhile isBlank) := by
    rw [← byteLength_append, List.takeWhile_append_dropWhile]
  unfold Segment.afterJoin
  rw [ofSegments_map_space, hbytes]
  cases tail.dropWhile isBlank with
  | nil => rfl
  | cons c free =>
    rw [ofSegments, ofSegments, Nat.add_assoc]

theorem ofSegments_afterTurn (offset : Nat) (tail : List Char) :
    ofSegments offset (Segment.afterTurn tail) = [atEnd (offset + byteLength tail)] := by
  cases tail <;> rfl

end Token

end FleetOrders
