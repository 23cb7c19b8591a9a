/-
FleetOrders.Console.Batch — a script of orders, sent without a player.

Every line is an order; blank lines and lines that start with `#` are
passed over. Each other line ends in one of three lists: sent, held back
because of a warning, or rejected. What is sent is written out, a line
each.

* `Sink` — where sent orders are written; it may be full, or fail at the
  end.
* `Batch` — a run so far: console, output, report.
* `Batch.run` — a whole script that is known from the start. A line that
  cannot be read, or output that cannot be written, ends the run; what was
  done before stays done.
* `Batch.runFrom` — a whole script that is read piece by piece, while the
  run itself may be changing what is still to be read.
-/
import FleetOrders.Console
import FleetOrders.Text.Column

namespace FleetOrders

/-! ## Output -/

/-- Where sent orders are written. -/
structure Sink where
  written : String
  /-- How many bytes find room, if there is a bound. -/
  capacity : Option Nat
  /-- Why the end of the output fails, if it does. -/
  flushFailure : Option String
  deriving DecidableEq, Repr

namespace Sink

/-- A sink that takes everything. -/
def unbounded : Sink :=
  ⟨"", none, none⟩

/-- Writes a text as a whole, or nothing of it. -/
def write (k : Sink) (text : String) : Except String Sink :=
  match k.capacity with
  | some bytes =>
    if bytes < k.written.utf8ByteSize + text.utf8ByteSize then .error "disk full"
    else .ok { k with written := k.written ++ text }
  | none => .ok { k with written := k.written ++ text }

/-- Writes a line: the text, then the end of the line. -/
def writeLine (k : Sink) (text : String) : Option String × Sink :=
  match k.write text with
  | .error e => (some e, k)
  | .ok k =>
    match k.write "\n" with
    | .error e => (some e, k)
    | .ok k => (none, k)

end Sink

/-! ## Report -/

/-- A line that was not sent. -/
structure Problem where
  /-- The number of the line, from one. -/
  line : Nat
  /-- The line without the blanks around it. -/
  input : String
  /-- Why it was not sent. -/
  reason : String
  deriving DecidableEq, Repr

/-- What became of the lines of a script. -/
structure BatchReport where
  /-- The canonical texts that were sent. -/
  sent : List String
  /-- The orders that were held back because of a warning. -/
  held : List Problem
  /-- The lines that are no order, or no legal one. -/
  rejected : List Problem
  deriving DecidableEq, Repr

namespace BatchReport

def empty : BatchReport :=
  ⟨[], [], []⟩

/-- Every order was sent. -/
def isClean (r : BatchReport) : Bool :=
  r.held.isEmpty && r.rejected.isEmpty

end BatchReport

/-! ## Runs -/

/-- A run so far. -/
structure Batch (σ : Type) where
  console : Console σ
  sink : Sink
  report : BatchReport

namespace Batch

/-- Where the bytes of a script come from: the next of them from a
position on, as the store is by then, or why they cannot be read. No bytes
mean that the script ends there, as it is by then. -/
abbrev Source (σ : Type) := σ → Nat → Except String Bytes

/-- The last position that a file can reach. -/
def lastPosition : Nat := 0x7FFFFFFFFFFFFFFF

/-- The next piece of a script. -/
def nextPiece {σ : Type} (b : Batch σ) (source : Source σ) (position : Nat) :
    Except String Bytes :=
  if position < lastPosition then source b.console.history.store position else .ok []

theorem lt_lastPosition_of_nextPiece {σ : Type} {b : Batch σ} {source : Source σ}
    {position : Nat} {x : UInt8} {more : Bytes}
    (h : b.nextPiece source position = .ok (x :: more)) : position < lastPosition := by
  unfold nextPiece at h
  split at h
  · assumption
  · simp at h

variable {σ : Type} [Store σ]

/-- The line says nothing: it is blank or a comment. -/
def isPassedOver (text : String) : Bool :=
  text == "" || text.toList.head? == some '#'

/-- Sends an order and writes it out. -/
def send (b : Batch σ) (sub : Submission) : Option Fault × Batch σ :=
  let console := b.console.commit sub
  match b.sink.writeLine sub.wire with
  | (some e, sink) => (some (.io ("failed to write output: " ++ e)), { b with console, sink })
  | (none, sink) =>
    (none, ⟨console, sink, { b.report with sent := b.report.sent ++ [sub.wire] }⟩)

/-- One line. `accept` sends orders with warnings too. -/
def step (s : Snapshot) (accept : Bool) (b : Batch σ) (number : Nat) (line : String) :
    Option Fault × Batch σ :=
  let text := Text.trimmed line
  if isPassedOver text then (none, b)
  else
    match s.check text with
    | .error e =>
      (none, { b with report.rejected := b.report.rejected ++ [⟨number, text, e.message⟩] })
    | .ok sub =>
      if sub.needsConfirmation && !accept then
        let problem := ⟨number, text, Text.joinWith "; " sub.warnings⟩
        (none, { b with report.held := b.report.held ++ [problem] })
      else b.send sub

/-- The lines from the given number on. A line that could not be read
comes as the reason why. -/
def lines (s : Snapshot) (accept : Bool) (b : Batch σ) :
    Nat → List (Except String String) → Option Fault × Batch σ
  | _, [] => (none, b)
  | _, .error why :: _ => (some (.io ("failed to read input: " ++ why)), b)
  | number, .ok line :: rest =>
    match b.step s accept number line with
    | (some fault, b) => (some fault, b)
    | (none, b) => b.lines s accept (number + 1) rest

/-- The end of a run. -/
def finish (b : Batch σ) : Option Fault × Batch σ :=
  (b.sink.flushFailure.map fun e => .io ("failed to write output: " ++ e), b)

/-- A whole script. -/
def run (s : Snapshot) (accept : Bool) (console : Console σ) (sink : Sink)
    (script : List (Except String String)) : Option Fault × Batch σ :=
  match Batch.lines s accept ⟨console, sink, .empty⟩ 1 script with
  | (some fault, b) => (some fault, b)
  | (none, b) => b.finish

/-- Why a line of bytes that are no text cannot be read. -/
def notText : String :=
  "stream did not contain valid UTF-8"

/-- A line of bytes as a line of a script. -/
def ofRawLine (line : Text.RawLine) : Except String String :=
  match line.text? with
  | some text => .ok text
  | none => .error notText

/-- Bytes as the lines of a script. -/
def script (bs : Bytes) : List (Except String String) :=
  (Text.rawLines bs).map ofRawLine

/-! ## Scripts read piece by piece -/

/-- The script from a position on. `unfinished` is what was read of a line
whose end was not, and `number` is the number of that line. A piece is
read only when all lines before it are dealt with. -/
def feed (s : Snapshot) (accept : Bool) (source : Source σ) (position number : Nat)
    (unfinished : Bytes) (b : Batch σ) : Option Fault × Batch σ :=
  match _ : b.nextPiece source position with
  | .error why => (some (.io ("failed to read input: " ++ why)), b)
  | .ok [] =>
    if unfinished = [] then (none, b)
    else
      match b.lines s accept number (script unfinished) with
      | (some fault, b) => (some fault, b)
      | (none, b) => feed s accept source position (number + 1) [] b
  | .ok (x :: more) =>
    let (ended, rest) := (Text.rawLines (unfinished ++ x :: more)).partition (·.ended)
    match b.lines s accept number (ended.map ofRawLine) with
    | (some fault, b) => (some fault, b)
    | (none, b) =>
      feed s accept source (position + (more.length + 1)) (number + ended.length)
        (rest.flatMap (·.bytes)) b
termination_by (lastPosition - position, unfinished.length)
decreasing_by
  · apply Prod.Lex.right
    simpa using List.length_pos_iff.mpr ‹_›
  · apply Prod.Lex.left
    have := lt_lastPosition_of_nextPiece ‹_›
    omega

/-- A whole script from its source. -/
def runFrom (s : Snapshot) (accept : Bool) (console : Console σ) (sink : Sink)
    (source : Source σ) : Option Fault × Batch σ :=
  match Batch.feed s accept source 0 1 [] ⟨console, sink, .empty⟩ with
  | (some fault, b) => (some fault, b)
  | (none, b) => b.finish

end Batch

end FleetOrders
