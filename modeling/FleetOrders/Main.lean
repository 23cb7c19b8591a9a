/-
FleetOrders.Main — the program on a real machine.

What a run may touch is read from the disk into a tree, the run is worked
out over the tree, and what it changed there is written back. At a
terminal the console converses line by line instead: a line is evaluated
with the answers that are known so far, and over again with one more
answer when it turns out to ask a question.
-/
import FleetOrders.CommandLine

namespace FleetOrders.Program

open CommandLine

/-! ## The disk -/

/-- What is really at a path. What cannot be read counts as absent. -/
def entryAt (path : String) : IO (Option Entry) := do
  try
    let place ← IO.FS.realPath path
    if ← place.isDir then return some .directory
    return some (.file (← IO.FS.readBinFile path).toList)
  catch _ => return none

/-- The tree with what is really where the names lead. Of a device there is
nothing to learn. -/
def mirrorAt (t : FileTree) (names : List String) : IO FileTree := do
  let .ok place := t.target names | return t
  match t.item? place with
  | some .void | some .full => return t
  | _ =>
    match ← entryAt (names.foldl Path.join "") with
    | some found => return t.put place found
    | none => return t

/-- The tree with what is really at a path and on the way to it. -/
def mirror (t : FileTree) (path : String) : IO FileTree :=
  let names := Path.names path
  (List.range names.length).foldlM (fun t n => mirrorAt t (names.take (n + 1))) t

/-- Makes the file at a path what a run has made of it. -/
def writeBack (before after : FileTree) (path : String) : IO Unit := do
  if let .ok content := after.read path then
    if (before.read path).toOption != some content then
      let directory := (Path.names path).dropLast.foldl Path.join ""
      if directory != "" then IO.FS.createDirAll directory
      IO.FS.writeBinFile path (ByteArray.mk content.toArray)

/-- Writes the history back. A history that cannot be written is not kept,
and nothing else comes of it. -/
def keepHistory (before after : FileTree) (paths : List String) : IO Unit :=
  for path in paths do
    try writeBack before after path catch _ => pure ()

/-! ## The terminal -/

/-- All that is left of a stream. -/
partial def readAll (stream : IO.FS.Stream) (sofar : ByteArray) : IO ByteArray := do
  let chunk ← stream.read 65536
  if chunk.isEmpty then return sofar
  readAll stream (sofar ++ chunk)

/-- Prints a prompt and reads a line. -/
def ask (prompt : String) : IO Answer := do
  let stdout ← IO.getStdout
  stdout.putStr prompt
  stdout.flush
  try
    let line ← (← IO.getStdin).getLine
    return (answers (Text.utf8 line)).headD .endOfInput
  catch e => return .failed (.io (toString e))

/-- Prints what a conversation has said, and forgets it. -/
def speak (d : Dialogue HistoryStore) : IO (Dialogue HistoryStore) := do
  (← IO.getStderr).putStr d.errors
  (← IO.getStdout).putStr d.output
  return { d with output := "", errors := "" }

/-- Evaluates a line with the answers that are known so far. The first
`said` characters of what it complains about were said already. -/
partial def evaluate (d : Dialogue HistoryStore) (line : String) (known : List Answer)
    (said : Nat) : IO (Except Fault Reply × Dialogue HistoryStore) := do
  let fresh : LineEditor := { d.editor with answers := known, prompts := [] }
  let (outcome, after) := Dialogue.eval { d with editor := fresh } line
  let complaint := after.errors.toList
  let left := { after with errors := String.ofList (complaint.drop said) }
  match after.editor.prompts[known.length]? with
  | none => return (outcome, left)
  | some prompt =>
    let _ ← speak left
    evaluate d line (known ++ [← ask prompt]) complaint.length

/-- Converses until the player leaves. -/
partial def converse (w : Surroundings) (paths : List String) (d : Dialogue HistoryStore) :
    IO UInt32 := do
  let d ← speak d
  match ← ask d.console.config.prompt with
  | .endOfInput => return 0
  | .interrupted => converse w paths d
  | .failed fault => refuse fault d
  | .line text =>
    let before := filesAfter w d.console.history.store
    let (outcome, d) ← evaluate d text [] 0
    keepHistory before (filesAfter w d.console.history.store) paths
    match outcome with
    | .error fault => refuse fault d
    | .ok .quit => return 0
    | .ok reply => converse w paths (d.report reply)
where
  refuse (fault : Fault) (d : Dialogue HistoryStore) : IO UInt32 := do
    let _ ← speak { d with errors := d.errors ++ errorLine fault.message }
    return 1

/-! ## Runs -/

/-- Says how a run ended and writes back what it changed. -/
def finish (o : Options) (w : Surroundings) (paths : List String) (outcome : Outcome) :
    IO UInt32 := do
  let complaint ←
    try
      for path in o.writeDemo.toList do writeBack w.files outcome.files path
      pure none
    catch e => pure (some (toString e))
  match complaint with
  | some message =>
    (← IO.getStderr).putStr (errorLine message)
    return 1
  | none =>
    keepHistory w.files outcome.files paths
    (← IO.getStdout).putStr outcome.stdout
    (← IO.getStderr).putStr outcome.stderr
    return outcome.code.toUInt32

/-- The surroundings with all of standard input. -/
def withInput (w : Surroundings) : IO Surroundings := do
  return { w with stdin := (← readAll (← IO.getStdin) .empty).toList }

/-- A run with the given options. -/
def runWith (o : Options) (w : Surroundings) : IO UInt32 := do
  let paths := CommandLine.paths o w
  let w := { w with files := ← paths.foldlM mirror w.files }
  match taskWith o w with
  | .over outcome => finish o w paths outcome
  | .batch .. =>
    let w ← if o.scripts.isEmpty then withInput w else pure w
    finish o w paths (perform w (taskWith o w))
  | .conversation d =>
    if ← (← IO.getStdin).isTty then converse w paths d.greet
    else
      let w ← withInput w
      finish o w paths (perform w (taskWith o w))

end FleetOrders.Program

/-- Runs the program with its arguments. -/
def main (args : List String) : IO UInt32 := do
  let here := (FleetOrders.Path.names (toString (← IO.currentDir))).drop 1
  let w : FleetOrders.Surroundings := {
    fleetHome := ← IO.getEnv "FLEETCMD_HOME"
    home := ← IO.getEnv "HOME"
    stdin := []
    files := .bare here }
  match FleetOrders.Options.parse args with
  | .ok o => FleetOrders.Program.runWith o w
  | .error e =>
    (← IO.getStderr).putStr (FleetOrders.CommandLine.errorLine e.message)
    return 1
