/-
FleetOrders.Proofs.InlineHints — what becomes of a line when its hint is
taken over.

A hint is put behind the line as it was typed, and a suggestion replaces it.
The two are cut at one byte, since a letter and its capital take as many
bytes, and so they differ in the case of letters only.

* `Suggestion.Extends` — the suggestion goes on from the line.
* `Suggestion.remainder?_eq_some_iff` — what is left of a suggestion behind
  the line, said without bytes.
* `EditorAid.hint?_eq_some_iff`, `EditorAid.hint?_eq_none_iff` — the hint is
  that of the first suggestion that goes on from the line.
* `Reading.Alike.isSubmittable_eq` — of two readings that differ in free text
  only, both are of complete commands or none is.

`hint_takes_suggestion` says it of lines.
-/
import FleetOrders.Proofs.Layout
import FleetOrders.Proofs.LetterCase
import FleetOrders.Proofs.SuggestionTexts
import FleetOrders.Snapshot.Demo

namespace FleetOrders

open Text (SameLetters upper)

/-! ## Texts that go on from a line -/

namespace Text.SameLetters

variable {a b : String}

theorem symm (h : SameLetters a b) : SameLetters b a :=
  Eq.symm h

/-- A letter and its capital take as many bytes. -/
theorem utf8ByteSize_eq (h : SameLetters a b) : a.utf8ByteSize = b.utf8ByteSize := by
  have hbytes := congrArg byteLength h
  rw [Token.byteLength_map_upper, Token.byteLength_map_upper] at hbytes
  rw [utf8ByteSize_eq_byteLength, utf8ByteSize_eq_byteLength, hbytes]

theorem append (h : SameLetters a b) (rest : String) : SameLetters (a ++ rest) (b ++ rest) := by
  rw [SameLetters, String.toList_append, String.toList_append, List.map_append, List.map_append, h]

end Text.SameLetters

namespace Suggestion

variable {x : Suggestion} {line rest : String}

/-- The suggestion starts with the line, in any case of letters, and goes on
with the rest. -/
def Extends (x : Suggestion) (line rest : String) : Prop :=
  rest ≠ "" ∧ ∃ head, x.text = head ++ rest ∧ SameLetters head line

theorem remainder?_eq_some_iff :
    x.remainder? line = some rest ↔ ∃ head, x.text = head ++ rest ∧ SameLetters head line := by
  rw [remainder?]
  constructor
  · intro h
    split at h
    case h_1 head tail hcut =>
      obtain ⟨htext, -⟩ := Text.cutAt?_eq_some_iff.mp hcut
      split at h
      case isTrue hsame =>
        cases h
        refine ⟨String.ofList head, ?_, ?_⟩
        · rw [← String.ofList_append, ← htext, String.ofList_toList]
        · rwa [SameLetters, String.toList_ofList]
      case isFalse => cases h
    case h_2 => cases h
  · rintro ⟨head, htext, hsame⟩
    have hcut : Text.cutAt? line.utf8ByteSize x.text.toList = some (head.toList, rest.toList) := by
      rw [Text.cutAt?_eq_some_iff, htext, String.toList_append, ← hsame.utf8ByteSize_eq,
        utf8ByteSize_eq_byteLength]
      exact ⟨rfl, rfl⟩
    rw [hcut]
    dsimp only
    rw [if_pos (show head.toList.map upper = line.toList.map upper from hsame),
      String.ofList_toList]

theorem extends_iff : x.Extends line rest ↔ x.remainder? line = some rest ∧ rest ≠ "" := by
  rw [remainder?_eq_some_iff, and_comm]
  rfl

/-- There is something to add exactly when the remainder is not empty. -/
theorem any_remainder?_iff :
    (x.remainder? line).any (· != "") = true ↔ ∃ rest, x.Extends line rest := by
  simp only [Option.any_eq_true, bne_iff_ne, extends_iff]

theorem Extends.sameLetters (h : x.Extends line rest) : SameLetters (line ++ rest) x.text := by
  obtain ⟨-, head, htext, hsame⟩ := h
  rw [htext]
  exact hsame.symm.append rest

end Suggestion

/-! ## The first of them -/

namespace EditorAid

variable (a : EditorAid) {line rest : String}

theorem hint?_of_not_blank (hline : Text.trim line.toList ≠ []) :
    a.hint? line line.utf8ByteSize =
      ((a.suggestions line).find? fun x => (x.remainder? line).any (· != "")).bind
        (·.remainder? line) := by
  have hblank : (Text.trim line.toList).isEmpty = false := List.isEmpty_eq_false_iff.mpr hline
  have hcursor : (decide (line.utf8ByteSize < line.utf8ByteSize) ||
      (Text.trim line.toList).isEmpty) ≠ true := by
    simp [hblank]
  rw [hint?, if_neg hcursor, List.find?_filterMap]

/-- The hint is what the first suggestion that goes on from the line adds. -/
theorem hint?_eq_some_iff (hline : Text.trim line.toList ≠ []) :
    a.hint? line line.utf8ByteSize = some rest ↔
      ∃ before x after, a.suggestions line = before ++ x :: after ∧ x.Extends line rest ∧
        ∀ y ∈ before, ∀ other, ¬ y.Extends line other := by
  rw [a.hint?_of_not_blank hline, Option.bind_eq_some_iff]
  constructor
  · rintro ⟨x, hfound, hrest⟩
    obtain ⟨hextends, before, after, hsplit, hnone⟩ := List.find?_eq_some_iff_append.mp hfound
    obtain ⟨other, hother⟩ := Suggestion.any_remainder?_iff.mp hextends
    obtain rfl : rest = other :=
      Option.some.inj (hrest.symm.trans (Suggestion.extends_iff.mp hother).1)
    refine ⟨before, x, after, hsplit, hother, fun y hy other hother => ?_⟩
    have hno := hnone y hy
    rw [Suggestion.any_remainder?_iff.mpr ⟨other, hother⟩] at hno
    cases hno
  · rintro ⟨before, x, after, hsplit, hextends, hnone⟩
    refine ⟨x, List.find?_eq_some_iff_append.mpr ⟨?_, before, after, hsplit, fun y hy => ?_⟩,
      (Suggestion.extends_iff.mp hextends).1⟩
    · exact Suggestion.any_remainder?_iff.mpr ⟨rest, hextends⟩
    · rw [Bool.not_eq_true', ← Bool.not_eq_true, Suggestion.any_remainder?_iff]
      rintro ⟨other, hother⟩
      exact hnone y hy other hother

/-- There is no hint exactly when no suggestion goes on from the line. -/
theorem hint?_eq_none_iff (hline : Text.trim line.toList ≠ []) :
    a.hint? line line.utf8ByteSize = none ↔
      ∀ x ∈ a.suggestions line, ∀ rest, ¬ x.Extends line rest := by
  constructor
  · intro hnone x hx rest hextends
    -- the first such suggestion would be hinted at
    have hsome : ((a.suggestions line).find? fun x =>
        (x.remainder? line).any (· != "")).isSome = true :=
      List.find?_isSome.mpr ⟨x, hx, Suggestion.any_remainder?_iff.mpr ⟨rest, hextends⟩⟩
    obtain ⟨first, hfirst⟩ := Option.isSome_iff_exists.mp hsome
    have hadds := List.find?_some hfirst
    obtain ⟨other, hother⟩ := Suggestion.any_remainder?_iff.mp hadds
    rw [a.hint?_of_not_blank hline, hfirst, Option.bind_some,
      (Suggestion.extends_iff.mp hother).1] at hnone
    cases hnone
  · intro hnone
    cases hhint : a.hint? line line.utf8ByteSize with
    | none => rfl
    | some rest =>
      obtain ⟨before, x, after, hsplit, hextends, -⟩ := (a.hint?_eq_some_iff hline).mp hhint
      exact absurd hextends (hnone x (by rw [hsplit]; simp) rest)

end EditorAid

/-! ## Readings -/

theorem Command.Alike.isComplete_eq {c d : Option Command} (h : Command.Alike c d) :
    c.any Command.isComplete = d.any Command.isComplete := by
  cases h with
  | same => rfl
  | join => rfl

theorem Reading.Alike.isSubmittable_eq {text other : String}
    (h : (Reading.final text).Alike (Reading.final other)) :
    isSubmittable text = isSubmittable other := by
  rw [isSubmittable, isSubmittable, h.error, h.command.isComplete_eq]

/-- Taking over the hint is as good as taking the suggestion. On a line that is
not blank, with the cursor at its end, a hint is what the first suggestion
that goes on from the line adds to it, and it is not empty. With the hint
behind it, the line is the text of the suggestion but for the ASCII case of
letters; both are read to the end as one, with the same error, stage and
command, where only the letters of a free text may differ; and the line is a
complete command exactly when the suggestion is marked as one. Without a hint,
no suggestion goes on from the line. -/
theorem hint_takes_suggestion (a : EditorAid) (line : String)
    (hline : Text.trim line.toList ≠ []) :
    let found := (a.snapshot.analyze a.limit line).suggestions
    (∀ hint, a.hint? line line.utf8ByteSize = some hint →
      hint ≠ "" ∧ ∃ before x after, found = before ++ x :: after ∧ x.Extends line hint ∧
        (∀ y ∈ before, ∀ rest, ¬ y.Extends line rest) ∧
        SameLetters (line ++ hint) x.text ∧
        (Reading.final (line ++ hint)).Alike (Reading.final x.text) ∧
        isSubmittable (line ++ hint) = x.complete) ∧
    (a.hint? line line.utf8ByteSize = none → ∀ x ∈ found, ∀ rest, ¬ x.Extends line rest) := by
  refine ⟨fun hint hhint => ?_, (a.hint?_eq_none_iff hline).mp⟩
  obtain ⟨before, x, after, hsplit, hextends, hnone⟩ := (a.hint?_eq_some_iff hline).mp hhint
  have hmem : x ∈ (a.snapshot.analyze a.limit line).suggestions := by
    rw [show (a.snapshot.analyze a.limit line).suggestions = _ from hsplit]
    exact List.mem_append_right before List.mem_cons_self
  have hsame := hextends.sameLetters
  have halike := Reading.final_alike hsame
  refine ⟨hextends.1, before, x, after, hsplit, hextends, hnone, hsame, halike, ?_⟩
  rw [halike.isSubmittable_eq, (facts_of_mem_suggestions hmem).1]

/-- A move in small letters, where the submission of the line comes first and
adds nothing; and one with a blank in it, which no suggestion has. -/
theorem hint_takes_suggestion_demo :
    Text.trim "f1w3".toList ≠ [] ∧
    EditorAid.hint? ⟨.demo, 10, true⟩ "f1w3" "f1w3".utf8ByteSize = some "W1" ∧
    (∃ x ∈ (Snapshot.demo.analyze 10 "f1w3").suggestions,
      x.Extends "f1w3" "W1" ∧ SameLetters ("f1w3" ++ "W1") x.text ∧
      isSubmittable ("f1w3" ++ "W1") = x.complete) ∧
    Text.trim "f1 w".toList ≠ [] ∧
    EditorAid.hint? ⟨.demo, 10, true⟩ "f1 w" "f1 w".utf8ByteSize = none ∧
    ∀ x ∈ (Snapshot.demo.analyze 10 "f1 w").suggestions, ∀ rest, ¬ x.Extends "f1 w" rest := by
  have hfar : Text.trim "f1w3".toList ≠ [] := by decide +kernel
  have hmove : Text.trim "f1 w".toList ≠ [] := by decide +kernel
  have hhint : EditorAid.hint? ⟨.demo, 10, true⟩ "f1w3" "f1w3".utf8ByteSize =
      some "W1" := by decide +kernel
  have hnone : EditorAid.hint? ⟨.demo, 10, true⟩ "f1 w" "f1 w".utf8ByteSize = none := by
    decide +kernel
  obtain ⟨-, before, x, after, hsplit, hextends, -, hsame, -, hcomplete⟩ :=
    (hint_takes_suggestion ⟨.demo, 10, true⟩ "f1w3" hfar).1 "W1" hhint
  have hmem : x ∈ (Snapshot.demo.analyze 10 "f1w3").suggestions := by
    rw [hsplit]
    exact List.mem_append_right before List.mem_cons_self
  exact ⟨hfar, hhint, ⟨x, hmem, hextends, hsame, hcomplete⟩, hmove, hnone,
    (hint_takes_suggestion ⟨.demo, 10, true⟩ "f1 w" hmove).2 hnone⟩

end FleetOrders
