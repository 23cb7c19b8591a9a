/-
FleetOrders.Text.Grapheme — what a reader takes for one character.

A grapheme cluster is a character with its marks, a syllable written in
parts, a pair of regional indicators that is a flag, or pictographs joined
to one. The rules are those of extended grapheme clusters in Unicode.

* `BreakClass`, `breakClass` — how a character takes part in clusters.
* `joins` — no boundary lies between a text and the character after it.
* `graphemes` — a text in clusters.

`flatten_graphemes`: the clusters of a text are the text, in parts.
-/
import FleetOrders.Text.Grapheme.Table
import FleetOrders.Text.Ranges

namespace FleetOrders.Text

namespace Grapheme

/-- How a character takes part in clusters. -/
inductive BreakClass where
  | carriageReturn
  | lineFeed
  /-- Stands alone. -/
  | control
  /-- A mark, which belongs to what it follows. -/
  | extend
  /-- The zero width joiner: a mark that also joins pictographs. -/
  | joiner
  | spacingMark
  /-- Belongs to what follows it. -/
  | prepend
  /-- The parts of a syllable, and the syllables without and with a
  trailing consonant. -/
  | leading
  | vowel
  | trailing
  | openSyllable
  | closedSyllable
  /-- Half of a flag. -/
  | regional
  | pictograph
  /-- A consonant that a linker can join to the one before it. -/
  | consonant
  | other
  deriving DecidableEq, Repr

/-- A syllable of one code point: nothing trails in the first of each row
of 28. -/
def syllableClass (c : Char) : BreakClass :=
  if (c.toNat - 0xAC00) % 28 = 0 then .openSyllable else .closedSyllable

def breakClass (c : Char) : BreakClass :=
  if ' ' ≤ c ∧ c ≤ '~' then .other
  else if c = '\r' then .carriageReturn
  else if c = '\n' then .lineFeed
  else if c = '\u200D' then .joiner
  else if inRanges controlRanges c then .control
  else if inRanges extendRanges c then .extend
  else if inRanges spacingMarkRanges c then .spacingMark
  else if inRanges prependRanges c then .prepend
  else if inRanges leadingRanges c then .leading
  else if inRanges vowelRanges c then .vowel
  else if inRanges trailingRanges c then .trailing
  else if inRanges [(0xAC00, 0xD7A3)] c then syllableClass c
  else if inRanges [(0x1F1E6, 0x1F1FF)] c then .regional
  else if inRanges pictographRanges c then .pictograph
  else if inRanges consonantRanges c then .consonant
  else .other

/-! ## Looking back

The text before a place is given nearest character first. -/

/-- The text ends in a pictograph and its marks. -/
def endsInPictograph (before : List Char) : Bool :=
  match before.dropWhile (breakClass · == .extend) with
  | [] => false
  | c :: _ => breakClass c == .pictograph

/-- The character may stand between two joined consonants. The zero width
non-joiner, though a mark, may not. -/
def isConjunctMark (c : Char) : Bool :=
  c != '\u200C' && (breakClass c == .extend || breakClass c == .joiner)

/-- The text ends in a consonant and marks, one of them a linker. -/
def endsInLinkedConsonant (before : List Char) : Bool :=
  (before.takeWhile isConjunctMark).any (inRanges linkerRanges ·) &&
    match before.dropWhile isConjunctMark with
    | [] => false
    | c :: _ => breakClass c == .consonant

/-- The text ends in the first half of a flag. -/
def endsInHalfFlag (before : List Char) : Bool :=
  (before.takeWhile (breakClass · == .regional)).length % 2 == 1

/-- No boundary lies between the text and the next character. -/
def joins (before : List Char) (next : Char) : Bool :=
  match before with
  | [] => false
  | last :: earlier =>
    match breakClass last, breakClass next with
    | .carriageReturn, .lineFeed => true
    | .carriageReturn, _ | .lineFeed, _ | .control, _ => false
    | _, .carriageReturn | _, .lineFeed | _, .control => false
    | _, .extend | _, .joiner | _, .spacingMark => true
    | .prepend, _ => true
    | .leading, .leading | .leading, .vowel => true
    | .leading, .openSyllable | .leading, .closedSyllable => true
    | .openSyllable, .vowel | .openSyllable, .trailing => true
    | .vowel, .vowel | .vowel, .trailing => true
    | .closedSyllable, .trailing | .trailing, .trailing => true
    | .joiner, .pictograph => endsInPictograph earlier
    | .regional, .regional => endsInHalfFlag before
    | _, .consonant => endsInLinkedConsonant before
    | _, _ => false

/-- The clusters of a text that follows another. -/
def following (before : List Char) : List Char → List (List Char)
  | [] => []
  | [c] => [[c]]
  | c :: d :: rest =>
    match following (c :: before) (d :: rest) with
    | [] => [[c]]
    | cluster :: more =>
      if joins (c :: before) d then (c :: cluster) :: more else [c] :: cluster :: more

theorem following_cons_ne_nil (before : List Char) (c : Char) (rest : List Char) :
    following before (c :: rest) ≠ [] := by
  cases rest with
  | nil => simp [following]
  | cons d rest =>
    simp only [following]
    split
    · simp
    · split <;> simp

theorem flatten_following :
    ∀ (before text : List Char), (following before text).flatten = text
  | _, [] => rfl
  | _, [_] => rfl
  | before, c :: d :: rest => by
      have ih := flatten_following (c :: before) (d :: rest)
      simp only [following]
      split
      · rename_i h
        exact absurd h (following_cons_ne_nil _ _ _)
      · rename_i cluster more h
        rw [h] at ih
        split <;> simpa using ih

end Grapheme

/-- The text in grapheme clusters. -/
def graphemes (text : List Char) : List (List Char) :=
  Grapheme.following [] text

/-- The clusters of a text are the text, in parts. -/
theorem flatten_graphemes (text : List Char) : (graphemes text).flatten = text :=
  Grapheme.flatten_following [] text

end FleetOrders.Text
