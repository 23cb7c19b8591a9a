/-
FleetOrders.CommandLine — the program as its user starts it.

* `Options.parse` — what the arguments ask for.
* `CommandLine.task` — what is left to do once the arguments are
  understood and the snapshot is read.
* `CommandLine.run` — a whole run: from arguments, environment, standard
  input and files to output, exit code and files. It touches nothing
  outside these.

Without scripts the program converses over standard input; with scripts,
or when told so, it sends orders in batches.
-/
import FleetOrders.Console.Batch
import FleetOrders.Console.Dialogue
import FleetOrders.Snapshot.Demo
import FleetOrders.Snapshot.File
import FleetOrders.Text.Backspace

namespace FleetOrders

/-! ## Arguments -/

/-- What the arguments ask for. -/
structure Options where
  /-- The scripts to send. -/
  scripts : List String
  /-- The file of the snapshot; the built-in map if there is none. -/
  snapshotFile : Option String
  /-- Where to write the built-in map. -/
  writeDemo : Option String
  historyDirectory : Option String
  historySize : Option Nat
  noHistory : Bool
  batch : Bool
  acceptWarnings : Bool
  noColor : Bool
  showHelp : Bool
  showVersion : Bool
  deriving DecidableEq, Repr

/-- Why arguments make no sense. -/
inductive UsageError where
  | unknownOption (option : String)
  | missingValue (option : String)
  | badHistorySize (value : String)
  deriving DecidableEq, Repr

def UsageError.message : UsageError → String
  | .unknownOption option => "unknown option: " ++ option
  | .missingValue option => option ++ " requires a value"
  | .badHistorySize value => "invalid --history-size value: " ++ value

namespace Options

/-- Nothing is asked for. -/
def unset : Options where
  scripts := []
  snapshotFile := none
  writeDemo := none
  historyDirectory := none
  historySize := none
  noHistory := false
  batch := false
  acceptWarnings := false
  noColor := false
  showHelp := false
  showVersion := false

/-- An option that takes no value, if the argument is one. -/
def flag? (o : Options) : String → Option Options
  | "-h" | "--help" => some { o with showHelp := true }
  | "-V" | "--version" => some { o with showVersion := true }
  | "-b" | "--batch" => some { o with batch := true }
  | "-y" | "--yes" => some { o with acceptWarnings := true }
  | "--no-color" => some { o with noColor := true }
  | "--no-history" => some { o with noHistory := true }
  | "--demo" => some { o with snapshotFile := none }
  | _ => none

/-- An option that takes a value, given that value; `none` if the argument
is no such option. -/
def setting? (o : Options) (option : String) (value : String) :
    Option (Except UsageError Options) :=
  match option with
  | "--state" => some (.ok { o with snapshotFile := some value })
  | "--write-demo" => some (.ok { o with writeDemo := some value })
  | "--history-dir" => some (.ok { o with historyDirectory := some value })
  | "--history-size" =>
    match Text.size? value with
    | some n => some (.ok { o with historySize := some n })
    | none => some (.error (.badHistorySize value))
  | _ => none

/-- An argument that is no known option: a script, unless it looks like an
option. -/
def script (o : Options) (arg : String) : Except UsageError Options :=
  if arg.toList.head? = some '-' then .error (.unknownOption arg)
  else .ok { o with scripts := o.scripts ++ [arg], batch := true }

/-- What the arguments ask for, on top of what was asked for already. The
first argument that makes no sense is the error. -/
def parseFrom (o : Options) : List String → Except UsageError Options
  | [] => .ok o
  | [arg] =>
    match o.flag? arg with
    | some o => .ok o
    | none =>
      if (o.setting? arg "").isSome then .error (.missingValue arg) else o.script arg
  | arg :: value :: rest =>
    match o.flag? arg with
    | some o => parseFrom o (value :: rest)
    | none =>
      match o.setting? arg value with
      | some (.ok o) => parseFrom o rest
      | some (.error e) => .error e
      | none =>
        match o.script arg with
        | .ok o => parseFrom o (value :: rest)
        | .error e => .error e

/-- What the arguments ask for. -/
def parse (args : List String) : Except UsageError Options :=
  parseFrom unset args

end Options

/-! ## Runs -/

/-- What the program finds around it. -/
structure Surroundings where
  /-- The variable that names the directory of the history. -/
  fleetHome : Option String
  /-- The directory of the user. -/
  home : Option String
  stdin : Bytes
  files : FileTree

/-- What a run leaves behind. -/
structure Outcome where
  stdout : String
  stderr : String
  code : Nat
  files : FileTree

namespace CommandLine

/-- The text of `--help`. -/
def usage : String :=
  "\x1b[1mfleetcmd\x1b[0m - Fleet order console\n" ++
  "\n" ++
  "\x1b[1mUSAGE:\x1b[0m\n" ++
  "    fleetcmd [OPTIONS] [FILES...]\n" ++
  "\n" ++
  "\x1b[1mARGUMENTS:\x1b[0m\n" ++
  "    [FILES...]    Command files to submit in batch mode, one command per line\n" ++
  "\n" ++
  "\x1b[1mOPTIONS:\x1b[0m\n" ++
  "    -h, --help            Print help information\n" ++
  "    -V, --version         Print version information\n" ++
  "    -b, --batch           Submit commands from stdin (or FILES) and exit\n" ++
  "    -y, --yes             In batch mode, send commands that carry warnings\n" ++
  "    --state PATH          Load a game-state snapshot (MessagePack)\n" ++
  "    --demo                Use the built-in demo map (default)\n" ++
  "    --write-demo PATH     Write the demo snapshot to PATH and exit\n" ++
  "    --history-dir DIR     Directory for command history (default ~/.fleetcmd)\n" ++
  "    --history-size N      Number of commands to remember (default 100)\n" ++
  "    --no-history          Keep history in memory only\n" ++
  "    --no-color            Disable ANSI colours\n" ++
  "\n" ++
  "\x1b[1mENVIRONMENT:\x1b[0m\n" ++
  "    FLEETCMD_LOG          Log filter, e.g. debug or fleetcmd_parser=trace\n" ++
  "    FLEETCMD_HOME         Default history directory\n" ++
  "\n" ++
  "\x1b[1mEXAMPLES:\x1b[0m\n" ++
  "    fleetcmd                          Start the interactive console\n" ++
  "    fleetcmd --state turn12.msgpack   Command against a saved snapshot\n" ++
  "    echo F1W2 | fleetcmd -b           Validate and emit one order\n" ++
  "    fleetcmd -y orders.txt            Submit a file of orders\n" ++
  "\n" ++
  "\x1b[1mCONSOLE COMMANDS:\x1b[0m\n" ++
  "    :help                Show the order reference\n" ++
  "    :history             List sent commands\n" ++
  "    :state               Summarize the snapshot\n" ++
  "    :check <input>       Show context, problems and suggestions\n" ++
  "    Tab                  Complete the current input\n" ++
  "    Ctrl+D               Exit\n"

/-- The last line of a run that failed. -/
def errorLine (message : String) : String :=
  "\x1b[31mError: " ++ message ++ "\x1b[0m\n"

/-- Where the history is kept when nothing else is asked for. -/
def defaultHistoryDirectory (w : Surroundings) : String :=
  match w.fleetHome, w.home with
  | some directory, _ => directory
  | none, some home => Path.join home ".fleetcmd"
  | none, none => ".fleetcmd"

/-- The settings of the console for a run. -/
def config (o : Options) : Config :=
  { Config.standard with
    color := !o.noColor && !o.batch
    historySize := o.historySize.getD Config.standard.historySize }

/-- Standard input as the answers of an editor that is no terminal: a line
may still hold the backspaces that were typed. -/
def answers (stdin : Bytes) : List Answer :=
  (Text.lines stdin).map fun
    | some line => .line (Text.afterBackspaces line)
    | none => .failed (.io Batch.notText)

/-! ### Batches -/

/-- The lines of one list of problems, under the name of the script. -/
def problemLines (source note : String) (ps : List Problem) : String :=
  String.join (ps.map fun p =>
    source ++ ":" ++ Text.decimal p.line ++ ": " ++ p.input ++ ": " ++ note ++ p.reason ++ "\n")

/-- What is told about a batch: what was rejected, then what was held
back. -/
def reportLines (source : String) (r : BatchReport) : String :=
  problemLines source "" r.rejected ++
    problemLines source "held, needs confirmation (use --yes): " r.held

/-- Where a run keeps its history: in memory, or in a directory. -/
abbrev HistoryStore := MemoryStore ⊕ DirectoryStore

/-- The files as the store has left them. -/
def filesAfter (w : Surroundings) : HistoryStore → FileTree
  | .inl _ => w.files
  | .inr d => d.tree

/-- A run of batches so far. -/
structure Progress where
  console : Console HistoryStore
  stdout : String
  stderr : String
  /-- Every order so far was sent. -/
  clean : Bool

/-- The files at this point of a run. -/
def Progress.files (w : Surroundings) (p : Progress) : FileTree :=
  filesAfter w p.console.history.store

/-- The run after one script, which went under a name. The message is the
error that ends the run, if there is one. -/
def Progress.after (p : Progress) (name : String) :
    Option Fault × Batch HistoryStore → Option String × Progress
  | (some fault, b) =>
    (some fault.message, { p with console := b.console, stdout := p.stdout ++ b.sink.written })
  | (none, b) =>
    (none, ⟨b.console, p.stdout ++ b.sink.written, p.stderr ++ reportLines name b.report,
      p.clean && b.report.isClean⟩)

/-- Standard input as the only script. -/
def sendInput (w : Surroundings) (s : Snapshot) (accept : Bool) (p : Progress) :
    Option String × Progress :=
  p.after "<stdin>" (Batch.run s accept p.console .unbounded (Batch.script w.stdin))

/-- How many bytes of a script are read at once. -/
def pieceSize : Nat := 8192

/-- The file at a place as the source of a script. The history may be kept
in that very file, so what is read depends on what was sent. -/
def fileSource (w : Surroundings) (place : Location) : Batch.Source HistoryStore :=
  fun store position =>
    ((filesAfter w store).readFrom place position pieceSize).mapError OsError.message

/-- One script file after the other, each as it is when its turn comes. -/
def sendScripts (w : Surroundings) (s : Snapshot) (accept : Bool) :
    List String → Progress → Option String × Progress
  | [], p => (none, p)
  | path :: rest, p =>
    match (p.files w).locate path with
    | .error e => (some ("failed to open '" ++ path ++ "': " ++ e.message), p)
    | .ok place =>
      let sent := Batch.runFrom s accept p.console .unbounded (fileSource w place)
      match p.after path sent with
      | (some message, p) => (some message, p)
      | (none, p) => sendScripts w s accept rest p

/-! ### The whole program -/

/-- What is left to do once the arguments are understood. -/
inductive Task where
  /-- Nothing but to end like this. -/
  | over (outcome : Outcome)
  /-- To send scripts. -/
  | batch (options : Options) (snapshot : Snapshot) (console : Console HistoryStore)
  /-- To converse with a player. -/
  | conversation (dialogue : Dialogue HistoryStore)

/-- Only to fail. -/
def Task.failure (w : Surroundings) (message : String) : Task :=
  .over ⟨"", errorLine message, 1, w.files⟩

/-- The directory of the history. -/
def historyDirectory (o : Options) (w : Surroundings) : String :=
  o.historyDirectory.getD (defaultHistoryDirectory w)

/-- Where the options put the history. -/
def historyStore (o : Options) (w : Surroundings) : HistoryStore :=
  if o.noHistory then .inl .empty else .inr ⟨historyDirectory o w, w.files⟩

/-- The task over a snapshot. -/
def taskOver (o : Options) (w : Surroundings) (s : Snapshot) : Task :=
  let console := Console.new (config o) (historyStore o w)
  if o.batch then .batch o s console
  else .conversation (.start console s (.answering (answers w.stdin)))

/-- The task that the options set. -/
def taskWith (o : Options) (w : Surroundings) : Task :=
  if o.showHelp then .over ⟨usage, "", 0, w.files⟩
  else if o.showVersion then .over ⟨"fleetcmd 0.1.0\n", "", 0, w.files⟩
  else
    match o.writeDemo, o.snapshotFile with
    | some path, _ =>
      match Snapshot.demo.save w.files path with
      | .ok files => .over ⟨"wrote demo snapshot to " ++ path ++ "\n", "", 0, files⟩
      | .error fault => .failure w fault.message
    | none, some path =>
      match Snapshot.load w.files path with
      | .ok s => taskOver o w s
      | .error fault => .failure w fault.message
    | none, none => taskOver o w .demo

/-- The task that the arguments set. -/
def task (args : List String) (w : Surroundings) : Task :=
  match Options.parse args with
  | .ok o => taskWith o w
  | .error e => .failure w e.message

/-- What sending the scripts leaves behind. Without script files standard
input is the script. -/
def sendAll (o : Options) (w : Surroundings) (s : Snapshot) (console : Console HistoryStore) :
    Outcome :=
  let start : Progress := ⟨console, "", "", true⟩
  let (failure, p) :=
    if o.scripts.isEmpty then sendInput w s o.acceptWarnings start
    else sendScripts w s o.acceptWarnings o.scripts start
  match failure with
  | some message => ⟨p.stdout, p.stderr ++ errorLine message, 1, p.files w⟩
  | none => ⟨p.stdout, p.stderr, if p.clean then 0 else 1, p.files w⟩

/-- What a conversation leaves behind. -/
def conclude (w : Surroundings) (failure : Option Fault) (d : Dialogue HistoryStore) : Outcome :=
  let files := filesAfter w d.console.history.store
  match failure with
  | some fault => ⟨d.output, d.errors ++ errorLine fault.message, 1, files⟩
  | none => ⟨d.output, d.errors, 0, files⟩

/-- A task done to its end. -/
def perform (w : Surroundings) : Task → Outcome
  | .over outcome => outcome
  | .batch o s console => sendAll o w s console
  | .conversation d =>
    let (failure, d) := d.run
    conclude w failure d

/-- A run of the program. -/
def run (args : List String) (w : Surroundings) : Outcome :=
  perform w (task args w)

/-- The paths whose files a run may read or write. -/
def paths (o : Options) (w : Surroundings) : List String :=
  let store : DirectoryStore := ⟨historyDirectory o w, w.files⟩
  o.scripts ++ o.snapshotFile.toList ++ o.writeDemo.toList ++
    if o.noHistory then [] else [store.pathOf Config.standard.historyKey]

end CommandLine

end FleetOrders
