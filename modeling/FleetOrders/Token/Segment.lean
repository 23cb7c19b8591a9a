/-
FleetOrders.Token.Segment — a line cut into segments, and the tokens among
them.

Cutting loses nothing: the segments of a text, put together again, are the
text (`text_segments`). Three kinds of segment are told apart:

* a lexeme, which becomes a token;
* a blank between lexemes;
* what stands after `TURN`, which nobody reads.

A token carries the capitals of its lexeme, except for the free text after
`JOIN`, which keeps its letters. Cutting never fails: a character that the
language does not know is a lexeme of kind `unknown`.
-/
import FleetOrders.Text.Ascii
import FleetOrders.Text.Blank
import FleetOrders.Text.Decimal
import FleetOrders.Token

namespace FleetOrders

open Text (isBlank isDigit upper dropWord?)

/-- A piece of a line. -/
inductive Segment where
  | lexeme (kind : TokenKind) (text : List Char)
  | space (c : Char)
  | unread (text : List Char)
  deriving DecidableEq, Repr

namespace Segment

/-- The piece of the line as it was written. -/
def text : Segment → List Char
  | .lexeme _ t => t
  | .space c => [c]
  | .unread t => t

/-! ## Cutting a text into segments -/

/-- The kind of a single letter, given the character after it. -/
def letterKind? (c : Char) (next : Option Char) : Option TokenKind :=
  match upper c with
  | 'F' => if next.any isDigit then some .fleetMark else none
  | 'W' => if next.any isDigit then some .worldMark else none
  | 'B' => some .build
  | 'T' => some .transfer
  | 'A' => some .attack
  | 'I' => some .industry
  | 'P' => some .population
  | _ => none

/-- A digit before cut text: it opens the number that the text starts
with, or is a number by itself. -/
def consDigit (c : Char) : List Segment → List Segment
  | .lexeme .number ds :: more => .lexeme .number (c :: ds) :: more
  | more => .lexeme .number [c] :: more

/-- What follows `JOIN`: blanks, then the free text if there is any. -/
def afterJoin (tail : List Char) : List Segment :=
  (tail.takeWhile isBlank).map .space ++
    match tail.dropWhile isBlank with
    | [] => []
    | free => [.lexeme .joinText free]

/-- What follows `TURN` is not read. -/
def afterTurn : List Char → List Segment
  | [] => []
  | tail => [.unread tail]

/-- The segments of a text. At every place the two words are tried before
the letters, and a word ends the cutting. -/
def segments : List Char → List Segment
  | [] => []
  | c :: rest =>
    match dropWord? ['J', 'O', 'I', 'N'] (c :: rest) with
    | some tail => .lexeme .join ((c :: rest).take 4) :: afterJoin tail
    | none =>
      match dropWord? ['T', 'U', 'R', 'N'] (c :: rest) with
      | some tail => .lexeme .turn ((c :: rest).take 4) :: afterTurn tail
      | none =>
        match letterKind? c rest.head? with
        | some kind => .lexeme kind [c] :: segments rest
        | none =>
          if isDigit c then consDigit c (segments rest)
          else if isBlank c then .space c :: segments rest
          else .lexeme .unknown [c] :: segments rest

/-! ## Nothing is lost -/

theorem append_of_dropWord? :
    ∀ {word text tail : List Char}, dropWord? word text = some tail →
      text.take word.length ++ tail = text
  | [], text, tail, h => by simp_all [dropWord?]
  | w :: word, [], tail, h => by simp [dropWord?] at h
  | w :: word, c :: text, tail, h => by
      unfold dropWord? at h
      split at h
      · simpa using append_of_dropWord? h
      · cases h

theorem flatMap_consDigit (c : Char) (l : List Segment) :
    (consDigit c l).flatMap text = c :: l.flatMap text := by
  unfold consDigit
  split <;> simp [text]

theorem flatMap_afterJoin (tail : List Char) : (afterJoin tail).flatMap text = tail := by
  have hspace : ∀ l : List Char, (l.map Segment.space).flatMap text = l := by
    intro l
    induction l with
    | nil => rfl
    | cons c l ih => simpa [text] using ih
  have hsplit := List.takeWhile_append_dropWhile (p := isBlank) (l := tail)
  unfold afterJoin
  rw [List.flatMap_append, hspace]
  cases h : tail.dropWhile isBlank with
  | nil => simpa [h] using hsplit
  | cons c free => simpa [h, text] using hsplit

theorem flatMap_afterTurn (tail : List Char) : (afterTurn tail).flatMap text = tail := by
  cases tail <;> simp [afterTurn, text]

/-- The segments of a text, put together again, are the text. -/
theorem text_segments (cs : List Char) : (segments cs).flatMap text = cs := by
  induction cs with
  | nil => rfl
  | cons c rest ih =>
    unfold segments
    split
    · rename_i tail h
      rw [List.flatMap_cons, flatMap_afterJoin]
      exact append_of_dropWord? h
    · split
      · rename_i tail h
        rw [List.flatMap_cons, flatMap_afterTurn]
        exact append_of_dropWord? h
      · split
        · simp [text, ih]
        · split
          · rw [flatMap_consDigit, ih]
          · split <;> simp [text, ih]

end Segment

/-! ## Tokens -/

/-- The length of a text in bytes of UTF-8. -/
def byteLength : List Char → Nat
  | [] => 0
  | c :: rest => c.utf8Size + byteLength rest

namespace Token

/-- The text of a token: capitals, except for the free text of `JOIN`. -/
def spelling (kind : TokenKind) (cs : List Char) : String :=
  String.ofList (if kind = .joinText then cs else cs.map upper)

/-- The tokens of a list of segments that starts at the given byte. -/
def ofSegments (offset : Nat) : List Segment → List Token
  | [] => [atEnd offset]
  | .lexeme kind cs :: rest =>
    ⟨kind, spelling kind cs, offset⟩ :: ofSegments (offset + byteLength cs) rest
  | s :: rest => ofSegments (offset + byteLength s.text) rest

end Token

/-- The tokens of a line, the end marker included. Blanks around the line
do not count. -/
def tokenize (line : String) : List Token :=
  Token.ofSegments 0 (Segment.segments (Text.trim line.toList))

end FleetOrders
