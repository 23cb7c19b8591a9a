/-
FleetOrders.FileTree — files and directories by path, and how the
operating system answers for them.

A tree has a root, and a directory in it that is the working directory. A
path is names between slashes. It starts at the root if a slash is at its
head, and at the working directory if not. `.` is the directory one stands
in and `..` the one above it; the root is above itself.

* `OsError` — the refusals of the operating system, with its wording.
* `locate`, `Entry.read` — finding what is there, and reading it.
* `create` — a file with new content, in the place of an old one.
* `makeDirectory`, `makeDirectories` — one directory, or a whole path.
* `read`, `readFrom` — what a file holds, in full or from a position on.
-/
import FleetOrders.MessagePack

namespace FleetOrders

/-- Why the operating system refuses. -/
inductive OsError where
  | notFound
  | alreadyExists
  | notDirectory
  | isDirectory
  | noSpace
  | nameTooLong
  /-- The path holds a character that no path can hold. -/
  | nulInPath
  deriving DecidableEq, Repr

/-- The wording of the operating system, with its number if it has one. -/
def OsError.message : OsError → String
  | .notFound => "No such file or directory (os error 2)"
  | .alreadyExists => "File exists (os error 17)"
  | .notDirectory => "Not a directory (os error 20)"
  | .isDirectory => "Is a directory (os error 21)"
  | .noSpace => "No space left on device (os error 28)"
  | .nameTooLong => "File name too long (os error 36)"
  | .nulInPath => "file name contained an unexpected NUL byte"

/-! ## Paths -/

namespace Path

/-- The parts between slashes. -/
def split : List Char → List (List Char)
  | [] => [[]]
  | c :: rest =>
    if c = '/' then [] :: split rest
    else
      match split rest with
      | [] => [[c]]
      | part :: parts => (c :: part) :: parts

/-- The name of the root. -/
def root : String := "/"

/-- The name stands for a directory from wherever one stands, and is never
the name of an entry. -/
def isStanding (name : String) : Bool :=
  name == root || name == "." || name == ".."

/-- The names of a path in their order. Slashes in a row are one; a slash
at the head is a name of its own. -/
def names (path : String) : List String :=
  let parts := ((split path.toList).filter (!·.isEmpty)).map String.ofList
  if path.toList.head? = some '/' then root :: parts else parts

/-- The path ends in a slash, so it can only mean a directory. -/
def namesDirectory (path : String) : Bool :=
  path.toList.getLast? == some '/'

/-- The longest path that is looked up, in bytes. -/
def maxLength : Nat := 4095

/-- Why the path is not looked up at all, if it is not. -/
def refusal? (path : String) : Option OsError :=
  if path.toList.contains '\x00' then some .nulInPath
  else if maxLength < path.utf8ByteSize then some .nameTooLong
  else none

/-- A name below a directory. -/
def join (directory name : String) : String :=
  if directory = "" || namesDirectory directory then directory ++ name
  else directory ++ "/" ++ name

/-- The directories that a path needs, the path itself first and what is
above it after it. All names are given last name first. A `.` between two
names adds no directory, and the root needs none. -/
def needed : List String → List (List String)
  | [] => []
  | name :: above =>
    if name = root || (name = "." && !above.isEmpty) then needed above
    else (name :: above) :: needed above

/-- `needed`, with the path in full even if it ends in `.`. -/
def neededInFull (names : List String) : List (List String) :=
  match needed names with
  | [] => []
  | _ :: above => names :: above

end Path

/-! ## Trees -/

/-- Where something is: the names from the root down. -/
abbrev Location := List String

/-- What is at a place. -/
inductive Entry where
  | directory
  | file (content : Bytes)
  /-- A device that swallows what is written to it. -/
  | void
  /-- A device on which nothing more can be written. -/
  | full
  deriving DecidableEq, Repr

/-- What an entry holds; a directory cannot be read, and a device has
nothing to read. -/
def Entry.read : Entry → Except OsError Bytes
  | .directory => .error .isDirectory
  | .file content => .ok content
  | .void | .full => .ok []

/-- An entry after its content was replaced. -/
def Entry.write (content : Bytes) : Entry → Except OsError Entry
  | .directory => .error .isDirectory
  | .file _ => .ok (.file content)
  | .void => .ok .void
  | .full => .error .noSpace

/-- Files and directories by place. -/
structure FileTree where
  /-- Where paths start that do not start at the root. -/
  workingDirectory : Location
  entries : List (Location × Entry)
  deriving DecidableEq, Repr

namespace FileTree

/-- The directories that stand below the root of every machine. -/
def standardDirectories : List String :=
  ["bin", "boot", "dev", "etc", "home", "lib", "media", "mnt", "opt", "proc", "root", "run",
    "sbin", "srv", "sys", "tmp", "usr", "var"]

/-- A tree with nothing in it but the working directory, what is above it,
and what every machine has. -/
def bare (workingDirectory : Location) : FileTree :=
  ⟨workingDirectory,
    [(["dev", "null"], .void), (["dev", "full"], .full)] ++
      standardDirectories.map fun name => ([name], .directory)⟩

/-- What is at a place. The working directory and what is above it are
always there. -/
def item? (t : FileTree) (place : Location) : Option Entry :=
  if place.isPrefixOf t.workingDirectory then some .directory
  else (t.entries.find? fun e => e.1 == place).map (·.2)

/-- The tree with an entry at a place, whatever was there. -/
def put (t : FileTree) (place : Location) (e : Entry) : FileTree :=
  { t with entries := (place, e) :: t.entries.filter fun old => old.1 != place }

/-- A directory is at the place. -/
def isDirectoryAt (t : FileTree) (place : Location) : Bool :=
  t.item? place == some .directory

/-- The longest name that a directory takes, in bytes. -/
def maxName : Nat := 255

/-- The place that a name leads to from a place, whether or not anything
is there. -/
def below (t : FileTree) (place : Location) (name : String) : Except OsError Location :=
  if !t.isDirectoryAt place then .error .notDirectory
  else if name = Path.root then .ok []
  else if name = "." then .ok place
  else if name = ".." then .ok place.dropLast
  else if maxName < name.utf8ByteSize then .error .nameTooLong
  else .ok (place ++ [name])

/-- Goes from a place along names. Something must be at every place on the
way, the last included. -/
def walk (t : FileTree) : Location → List String → Except OsError Location
  | place, [] => .ok place
  | place, name :: rest => do
    let next ← t.below place name
    if (t.item? next).isSome then t.walk next rest else .error .notFound

/-- The place where names lead to, seen from the working directory. -/
def follow (t : FileTree) (names : List String) : Except OsError Location :=
  t.walk t.workingDirectory names

/-- The place of the directory in which a path ends, and the last name of
the path. -/
def parent (t : FileTree) (names : List String) : Except OsError (Location × Option String) := do
  let place ← t.follow names.dropLast
  if t.isDirectoryAt place then .ok (place, names.getLast?) else .error .notDirectory

/-- The place that names lead to, whether or not anything is there. -/
def target (t : FileTree) (names : List String) : Except OsError Location := do
  match ← t.parent names with
  | (place, none) => .ok place
  | (place, some name) => t.below place name

/-! ### Reading -/

/-- Where a path leads to; something is there. -/
def locate (t : FileTree) (path : String) : Except OsError Location :=
  match Path.refusal? path with
  | some e => .error e
  | none =>
    if path = "" then .error .notFound
    else do
      let place ← t.follow (Path.names path)
      if Path.namesDirectory path && !t.isDirectoryAt place then .error .notDirectory
      else .ok place

/-- What is read at a place. -/
def readAt (t : FileTree) (place : Location) : Except OsError Bytes :=
  match t.item? place with
  | none => .error .notFound
  | some e => e.read

/-- The content of the file that a path leads to. -/
def read (t : FileTree) (path : String) : Except OsError Bytes := do
  let place ← t.locate path
  t.readAt place

/-- The content of the file at a place from a position on, at most so
many bytes of it. -/
def readFrom (t : FileTree) (place : Location) (position size : Nat) : Except OsError Bytes := do
  let content ← t.readAt place
  return (content.drop position).take size

/-! ### Writing -/

/-- Makes the file that a path leads to empty, or a new one; gives its
place. -/
def openEmpty (t : FileTree) (path : String) : Except OsError (Location × FileTree) :=
  match Path.refusal? path with
  | some e => .error e
  | none =>
    if path = "" then .error .notFound
    else do
      match ← t.parent (Path.names path) with
      | (_, none) => .error .isDirectory
      | (place, some name) =>
        if Path.isStanding name || Path.namesDirectory path then .error .isDirectory
        else
          let target ← t.below place name
          match t.item? target with
          | none | some (.file _) => .ok (target, t.put target (.file []))
          | some .directory => .error .isDirectory
          | some .void | some .full => .ok (target, t)

/-- The tree with this content in the file at a place. -/
def writeAt (t : FileTree) (place : Location) (content : Bytes) : Except OsError FileTree :=
  match t.item? place with
  | none => .error .notFound
  | some e => (e.write content).map (t.put place)

/-- The tree with a file of this content at the path. -/
def create (t : FileTree) (path : String) (content : Bytes) : Except OsError FileTree := do
  let (place, t) ← t.openEmpty path
  t.writeAt place content

/-- The tree with a directory where the names lead; nothing may be there
yet. -/
def makeDirectory (t : FileTree) (names : List String) : Except OsError FileTree := do
  match ← t.parent names with
  | (_, none) => .error .alreadyExists
  | (place, some name) =>
    if Path.isStanding name then .error .alreadyExists
    else
      let target ← t.below place name
      if (t.item? target).isSome then .error .alreadyExists
      else .ok (t.put target .directory)

/-- A directory is where the names lead. -/
def leadsToDirectory (t : FileTree) (names : List String) : Bool :=
  match t.follow names with
  | .ok place => t.isDirectoryAt place
  | .error _ => false

/-- `makeDirectory`, content with a directory that is there already. -/
def ensureDirectory (t : FileTree) (names : List String) : Except OsError FileTree :=
  match t.makeDirectory names with
  | .error .alreadyExists =>
    if t.leadsToDirectory names then .ok t else .error .alreadyExists
  | outcome => outcome

/-- The tree with all of these directories, of which each lies in the next
one; they are given by their names, last name first. One that cannot be
made because the next is missing is tried again after it. What was made
before a refusal stays. -/
def ensureDirectories (t : FileTree) : List (List String) → Except OsError Unit × FileTree
  | [] => (.ok (), t)
  | names :: above =>
    match t.ensureDirectory names.reverse with
    | .ok made => (.ok (), made)
    | .error .notFound =>
      match t.ensureDirectories above with
      | (.error e, t) => (.error e, t)
      | (.ok (), t) =>
        match t.ensureDirectory names.reverse with
        | .ok made => (.ok (), made)
        | .error e => (.error e, t)
    | .error e => (.error e, t)

/-- The tree with a directory at the path and all directories above it. -/
def makeDirectories (t : FileTree) (path : String) : Except OsError Unit × FileTree :=
  match Path.refusal? path with
  | some e => (.error e, t)
  | none => t.ensureDirectories (Path.neededInFull (Path.names path).reverse)

end FileTree

end FleetOrders
