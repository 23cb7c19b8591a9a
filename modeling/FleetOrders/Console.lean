/-
FleetOrders.Console — what becomes of a line that is to be sent.

* `Snapshot.check` — the line as a submission, or why it cannot be sent.
* `Console` — the settings and the history, which outlive a line.
* `commit`, `submit` — a submission that was sent goes into the history in
  its canonical text.

The snapshot belongs to the caller, who passes in the latest one.
-/
import FleetOrders.Console.Config
import FleetOrders.Console.Editor
import FleetOrders.History

namespace FleetOrders

/-- A command that may be sent. -/
structure Submission where
  /-- The canonical text. -/
  wire : String
  command : Command
  /-- What the player should know before it is sent. -/
  warnings : List String
  deriving DecidableEq, Repr

/-- The player has to agree before the command is sent. -/
def Submission.needsConfirmation (s : Submission) : Bool :=
  !s.warnings.isEmpty

/-- Why a line cannot be sent. -/
inductive SubmitError where
  /-- The line is not one complete order. -/
  | unreadable (error : SyntaxError)
  /-- The order breaks a rule of the game. -/
  | rejected (verdict : Verdict)
  /-- There is nothing to send. -/
  | notSubmittable
  deriving DecidableEq, Repr

def SubmitError.message : SubmitError → String
  | .unreadable error => "syntax error: " ++ error.message
  | .rejected verdict => "command rejected: " ++ Text.joinWith "; " verdict.errors
  | .notSubmittable => "nothing to submit"

namespace Snapshot

/-- A legal command with its canonical text. -/
def checkCommand (s : Snapshot) (c : Command) : Except SubmitError Submission :=
  let v := assess s .submission (some c)
  if v.isValid then
    match c.wire? with
    | some wire => .ok ⟨wire, c, v.warnings⟩
    | none => .error .notSubmittable
  else .error (.rejected v)

/-- The line as a submission. Nothing is recorded. -/
def check (s : Snapshot) (line : String) : Except SubmitError Submission :=
  let r := Reading.final line
  match r.error, r.command with
  | some e, _ => .error (.unreadable e)
  | none, none => .error .notSubmittable
  | none, some c => s.checkCommand c

end Snapshot

/-- The settings and the history. -/
structure Console (σ : Type) where
  config : Config
  history : History σ

namespace Console

variable {σ : Type} [Store σ]

/-- A console with the history that the store holds. -/
def new (config : Config) (store : σ) : Console σ :=
  ⟨config, .load store config.historyKey config.historySize⟩

variable (c : Console σ)

/-- Feedback on a line, with as many suggestions as the settings allow. -/
def analyze (s : Snapshot) (line : String) : Analysis :=
  s.analyze c.config.maxSuggestions line

/-- Records a submission that was sent. -/
def commit (sub : Submission) : Console σ :=
  { c with history := c.history.add sub.wire }

/-- Checks a line and records it if it can be sent. -/
def submit (s : Snapshot) (line : String) : Except SubmitError Submission × Console σ :=
  match s.check line with
  | .ok sub => (.ok sub, c.commit sub)
  | .error e => (.error e, c)

end Console

end FleetOrders
