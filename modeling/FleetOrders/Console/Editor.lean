/-
FleetOrders.Console.Editor — what a line editor asks while the player
types: completions, the inline hint, and colours.
-/
import FleetOrders.Highlight
import FleetOrders.Suggestion.Completion
import FleetOrders.Verdict.Assessment

namespace FleetOrders

/-- Feedback on a line that is being typed. -/
structure Analysis where
  reading : Reading
  verdict : Verdict
  suggestions : List Suggestion
  deriving DecidableEq, Repr

namespace Snapshot

/-- The line read, judged and completed, with at most `limit`
suggestions. -/
def analyze (s : Snapshot) (limit : Nat) (line : String) : Analysis :=
  let r := Reading.live line
  let v := assess s .live r.command
  ⟨r, v, s.suggest limit line r.stage v⟩

end Snapshot

/-- What a line editor needs to know. -/
structure EditorAid where
  snapshot : Snapshot
  limit : Nat
  color : Bool

namespace EditorAid

variable (a : EditorAid)

/-- The suggestions for a text. -/
def suggestions (text : String) : List Suggestion :=
  (a.snapshot.analyze a.limit text).suggestions

/-- The candidates for the line up to the cursor: what the editor shows,
and what the line becomes. A cursor inside a character or past the end
stands for the whole line. -/
def completions (line : String) (cursor : Nat) : List (String × String) :=
  let head := match Text.cutAt? cursor line.toList with
    | some (head, _) => String.ofList head
    | none => line
  (a.suggestions head).map fun s => (s.row, s.text)

/-- What the first suggestion that goes on from the line adds to it. There
is no hint on a blank line, nor with the cursor before its end. -/
def hint? (line : String) (cursor : Nat) : Option String :=
  if cursor < line.utf8ByteSize || (Text.trim line.toList).isEmpty then none
  else ((a.suggestions line).filterMap (·.remainder? line)).find? (· != "")

/-- The line in colours. -/
def highlightLine (line : String) : String :=
  highlight a.color line

/-- The prompt in its colour; a prompt other than the usual one is shown
as it is. -/
def highlightPrompt (prompt : String) (usual : Bool) : String :=
  if usual && a.color then "\x1b[1;32m" ++ prompt ++ "\x1b[0m" else prompt

/-- A hint in its colour. -/
def highlightHint (hint : String) : String :=
  if a.color then "\x1b[2m" ++ hint ++ "\x1b[0m" else hint

/-- Whether the line is painted again after each key. -/
def repaints : Bool :=
  a.color

end EditorAid

end FleetOrders
