/-
FleetOrders.Console.Dialogue — the console in conversation with a player.

A dialogue reads from a line editor: the answers that the editor will
give, and what it has been told so far. An order with warnings is sent
only after the player has agreed, in the very next answer. A line that
starts with a colon is a command to the console itself.

* `Answer`, `LineEditor` — the editor, as far as the console sees it.
* `Reply` — what a line did.
* `Dialogue.eval` — one line.
* `Dialogue.run` — line after line until the player leaves.
-/
import FleetOrders.Console
import FleetOrders.Console.Help
import FleetOrders.Snapshot.Summary

namespace FleetOrders

/-! ## The line editor -/

/-- What an editor gives when it is asked for a line. -/
inductive Answer where
  | line (text : String)
  /-- The player broke the line off. -/
  | interrupted
  | endOfInput
  /-- Reading failed. -/
  | failed (fault : Fault)
  deriving DecidableEq, Repr

/-- A line editor: what it will answer, and what it has been told. -/
structure LineEditor where
  /-- The answers to come; after the last the input ends. -/
  answers : List Answer
  /-- The prompts it was given. -/
  prompts : List String
  /-- The lines it was given for recall. -/
  recalled : List String
  /-- How often it was given a snapshot to complete from. -/
  snapshots : Nat
  deriving DecidableEq, Repr

namespace LineEditor

/-- An editor that will give these answers. -/
def answering (answers : List Answer) : LineEditor :=
  ⟨answers, [], [], 0⟩

/-- Asks for a line. -/
def readLine (e : LineEditor) (prompt : String) : Answer × LineEditor :=
  match e.answers with
  | [] => (.endOfInput, { e with prompts := e.prompts ++ [prompt] })
  | a :: rest => (a, { e with answers := rest, prompts := e.prompts ++ [prompt] })

/-- Gives the editor a line for recall. -/
def addHistory (e : LineEditor) (line : String) : LineEditor :=
  { e with recalled := e.recalled ++ [line] }

/-- Gives the editor a snapshot to complete from. -/
def setSnapshot (e : LineEditor) : LineEditor :=
  { e with snapshots := e.snapshots + 1 }

end LineEditor

/-! ## Replies -/

/-- What a line did. -/
inductive Reply where
  /-- The line was blank. -/
  | nothing
  | sent (submission : Submission)
  /-- The player did not agree. -/
  | cancelled
  | rejected (error : SubmitError)
  /-- A command to the console gave this text. -/
  | output (text : String)
  | quit
  deriving DecidableEq, Repr

/-- The question before an order with warnings is sent. -/
def confirmPrompt : String := "Send anyway? [y/N] "

/-- The answer agrees. -/
def agrees (answer : String) : Bool :=
  let word := String.ofList ((Text.trim answer.toList).map Text.upper)
  word == "Y" || word == "YES"

/-! ## The dialogue -/

/-- A conversation with a player. -/
structure Dialogue (σ : Type) where
  editor : LineEditor
  console : Console σ
  snapshot : Snapshot
  /-- What was printed. -/
  output : String
  /-- What was printed as an error or a warning. -/
  errors : String

namespace Dialogue

variable {σ : Type} [Store σ]

/-- A conversation that is about to begin: the editor is given the history
for recall, and the snapshot. -/
def start (console : Console σ) (snapshot : Snapshot) (editor : LineEditor) : Dialogue σ :=
  let seeded := console.history.entries.foldl LineEditor.addHistory editor
  ⟨seeded.setSnapshot, console, snapshot, "", ""⟩

variable (d : Dialogue σ)

/-- The conversation goes on over another snapshot. -/
def setSnapshot (snapshot : Snapshot) : Dialogue σ :=
  { d with snapshot, editor := d.editor.setSnapshot }

/-- Prints a line. -/
def print (text : String) : Dialogue σ :=
  { d with output := d.output ++ text ++ "\n" }

/-- Prints a line of complaint in a colour. -/
def complain (color text : String) : Dialogue σ :=
  let line := if d.console.config.color then color ++ text ++ "\x1b[0m" else text
  { d with errors := d.errors ++ line ++ "\n" }

/-- Prints a warning. -/
def warn (message : String) : Dialogue σ :=
  d.complain "\x1b[33m" ("Warning: " ++ message)

/-- Prints an error. -/
def printError (message : String) : Dialogue σ :=
  d.complain "\x1b[31m" ("Error: " ++ message)

/-! ### Sending -/

/-- Asks whether the player agrees. Anything but a yes is a no. -/
def confirm : Except Fault Bool × Dialogue σ :=
  match d.editor.readLine confirmPrompt with
  | (.line text, editor) => (.ok (agrees text), { d with editor })
  | (.interrupted, editor) => (.ok false, { d with editor })
  | (.endOfInput, editor) => (.ok false, { d with editor })
  | (.failed fault, editor) => (.error fault, { d with editor })

/-- Records a submission and gives it to the editor for recall. -/
def record (sub : Submission) : Dialogue σ :=
  { d with console := d.console.commit sub, editor := d.editor.addHistory sub.wire }

/-- Sends a text if it is an order, with the player's consent where there
are warnings. -/
def send (text : String) : Except Fault Reply × Dialogue σ :=
  match d.snapshot.check text with
  | .error e => (.ok (.rejected e), d)
  | .ok sub =>
    if sub.needsConfirmation then
      match (sub.warnings.foldl warn d).confirm with
      | (.error fault, d) => (.error fault, d)
      | (.ok false, d) => (.ok .cancelled, d)
      | (.ok true, d) => (.ok (.sent sub), d.record sub)
    else (.ok (.sent sub), d.record sub)

/-! ### Commands to the console -/

/-- The entry so many steps back in the history, with the walk there ended
again, or why there is none. -/
def entryBack (steps : String) : Except String String × Dialogue σ :=
  match if steps = "" then some 1 else Text.size? steps with
  | none => (.error ("expected a number of steps, found '" ++ steps ++ "'"), d)
  | some n =>
    let length := d.console.history.entries.length
    if n = 0 ∨ length < n then
      (.error ("history holds " ++ Text.decimal length ++ " commands"), d)
    else
      let walked := Nat.repeat (·.navigate .up) n d.console.history.resetNavigation
      let d := { d with console.history := walked.resetNavigation }
      match walked.current? with
      | some entry => (.ok entry, d)
      | none => (.error "no commands sent yet", d)

/-- The history with numbers, from one. -/
def historyText : String :=
  match d.console.history.entries with
  | [] => "no commands sent yet"
  | entries =>
    let rows := entries.zipIdx.map fun (entry, i) =>
      Text.padStart 4 (Text.decimal (i + 1)) ++ "  " ++ entry ++ "\n"
    String.ofList (Text.trimEnd (String.join rows).toList)

/-- Everything that is known about a line. -/
def checkText (line : String) : String :=
  let a := d.console.analyze d.snapshot line
  "context: " ++ a.reading.stage.text ++ "\n" ++ a.verdict.text ++
    String.join (a.suggestions.map fun s => "\n  " ++ s.display)

/-- A command to the console cut at its first blank. -/
def splitCommand (command : String) : String × String :=
  let cs := command.toList
  (String.ofList (cs.takeWhile (!Text.isBlank ·)),
    String.ofList ((cs.dropWhile (!Text.isBlank ·)).drop 1))

/-- A command to the console, without its colon. -/
def obey (command : String) : Except Fault Reply × Dialogue σ :=
  let (name, rest) := splitCommand command
  match name with
  | "again" =>
    match d.entryBack (Text.trimmed rest) with
    | (.ok entry, d) => d.send entry
    | (.error message, d) => (.ok (.output message), d)
  | "quit" | "q" => (.ok .quit, d)
  | "help" | "h" => (.ok (.output helpText), d)
  | "history" => (.ok (.output d.historyText), d)
  | "clear-history" =>
    (.ok (.output "history cleared"), { d with console.history := d.console.history.clear })
  | "state" => (.ok (.output d.snapshot.summary), d)
  | "check" => (.ok (.output (d.checkText rest)), d)
  | other => (.ok (.output ("unknown command ':" ++ other ++ "', try :help")), d)

/-! ### Lines -/

/-- One line from the player. -/
def eval (line : String) : Except Fault Reply × Dialogue σ :=
  match Text.trim line.toList with
  | [] => (.ok .nothing, d)
  | ':' :: command => d.obey (String.ofList command)
  | text => d.send (String.ofList text)

/-- Prints what a line did. -/
def report : Reply → Dialogue σ
  | .nothing | .cancelled | .quit => d
  | .sent sub => d.print sub.wire
  | .rejected e => d.printError e.message
  | .output text => d.print text

/-- The greeting. -/
def greet : Dialogue σ :=
  let name := if d.console.config.color then "\x1b[1;36mfleetcmd\x1b[0m" else "fleetcmd"
  (d.print (name ++ " v0.1.0")).print
    ("Commanding as " ++ d.snapshot.player ++
      ". Tab completes, :help lists orders, Ctrl+D exits.\n")

/-- At most `rounds` lines. The fault is the one that ended the
conversation, if one did. -/
def converse : Nat → Dialogue σ → Option Fault × Dialogue σ
  | 0, d => (none, d)
  | rounds + 1, d =>
    match d.editor.readLine d.console.config.prompt with
    | (.endOfInput, editor) => (none, { d with editor })
    | (.failed fault, editor) => (some fault, { d with editor })
    | (.interrupted, editor) => converse rounds { d with editor }
    | (.line text, editor) =>
      match eval { d with editor } text with
      | (.error fault, d) => (some fault, d)
      | (.ok .quit, d) => (none, d)
      | (.ok reply, d) => converse rounds (d.report reply)

/-- The whole conversation: every line uses up an answer of the editor, so
there are no more rounds than answers, and one for the end. -/
def run : Option Fault × Dialogue σ :=
  converse (d.editor.answers.length + 1) d.greet

end Dialogue

end FleetOrders
