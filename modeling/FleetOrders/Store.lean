/-
FleetOrders.Store — bytes kept under keys.

`Store` says what a store can do: give the bytes under a key, and keep
bytes under a key. Either may be refused. A store that was asked to keep
something is a new store, also if it refused, because a refusal may leave
traces.

* `MemoryStore` — keeps everything and refuses nothing.
* `DirectoryStore` — keeps a file for each key in one directory of a file
  tree. Keys that differ only in characters that a file name cannot have
  share a file.
* `RefusingStore` — another store behind a door that may be shut.
-/
import FleetOrders.Fault
import FleetOrders.FileTree

namespace FleetOrders

/-- What a store can do. -/
class Store (σ : Type) where
  /-- The bytes under a key, `none` if there are none. -/
  get? : σ → String → Except Fault (Option Bytes)
  /-- Keeps bytes under a key in the place of what was there. -/
  put : σ → String → Bytes → Except Fault Unit × σ

/-! ## In memory -/

/-- A store that lives as long as the console does. -/
structure MemoryStore where
  entries : List (String × Bytes)
  deriving DecidableEq, Repr

namespace MemoryStore

def empty : MemoryStore :=
  ⟨[]⟩

/-- The store with bytes under a key. -/
def insert (s : MemoryStore) (key : String) (value : Bytes) : MemoryStore :=
  ⟨(key, value) :: s.entries.filter fun e => e.1 != key⟩

/-- The bytes under a key. -/
def find? (s : MemoryStore) (key : String) : Option Bytes :=
  (s.entries.find? fun e => e.1 == key).map (·.2)

/-- How many keys are in use. -/
def size (s : MemoryStore) : Nat :=
  s.entries.length

instance : Store MemoryStore where
  get? s key := .ok (s.find? key)
  put s key value := (.ok (), s.insert key value)

/-- What was kept under a key is found there, and the other keys are left
alone. -/
theorem find?_insert (s : MemoryStore) (key other : String) (value : Bytes) :
    (s.insert key value).find? other = if key = other then some value else s.find? other := by
  by_cases h : key = other
  · simp [insert, find?, h]
  · simp only [insert, find?, if_neg h]
    rw [List.find?_cons_of_neg (by simpa using h), List.find?_filter]
    congr 1
    refine congrArg (fun p => s.entries.find? p) (funext fun e => ?_)
    by_cases he : e.1 = other
    · simp [he, Ne.symm h]
    · simp [he]

end MemoryStore

/-! ## In a directory -/

/-- A store with a file for each key in one directory. -/
structure DirectoryStore where
  /-- The path of the directory, which is made when it is first needed. -/
  directory : String
  tree : FileTree
  deriving DecidableEq, Repr

namespace DirectoryStore

/-- The character may stand in the name of a file. -/
def isSafe (c : Char) : Bool :=
  ('a' ≤ c && c ≤ 'z') || ('A' ≤ c && c ≤ 'Z') || Text.isDigit c || c == '-' || c == '_'

/-- The name of the file for a key: an underscore for every character that
is not safe. -/
def fileName (key : String) : String :=
  String.ofList (key.toList.map fun c => if isSafe c then c else '_') ++ ".msgpack"

/-- The path of the file for a key. -/
def pathOf (s : DirectoryStore) (key : String) : String :=
  Path.join s.directory (fileName key)

/-- A refusal of the operating system on the way to a path. -/
def refusal (attempt path : String) (e : OsError) : Fault :=
  .io ("failed to " ++ attempt ++ " '" ++ path ++ "': " ++ e.message)

instance : Store DirectoryStore where
  get? s key :=
    match s.tree.read (s.pathOf key) with
    | .ok content => .ok (some content)
    | .error .notFound => .ok none
    | .error e => .error (refusal "read" (s.pathOf key) e)
  put s key value :=
    match s.tree.makeDirectories s.directory with
    | (.error e, tree) => (.error (refusal "create directory" s.directory e), { s with tree })
    | (.ok (), tree) =>
      match tree.create (s.pathOf key) value with
      | .error e => (.error (refusal "write" (s.pathOf key) e), { s with tree })
      | .ok tree => (.ok (), { s with tree })

end DirectoryStore

/-! ## Stores made of stores -/

/-- A store behind a door: a fault on one side of it is met every time. -/
structure RefusingStore (σ : Type) where
  store : σ
  readFault : Option Fault
  writeFault : Option Fault

instance {σ : Type} [Store σ] : Store (RefusingStore σ) where
  get? s key :=
    match s.readFault with
    | some fault => .error fault
    | none => Store.get? s.store key
  put s key value :=
    match s.writeFault with
    | some fault => (.error fault, s)
    | none =>
      let (outcome, store) := Store.put s.store key value
      (outcome, { s with store })

/-- A store of either of two kinds. -/
instance {σ τ : Type} [Store σ] [Store τ] : Store (σ ⊕ τ) where
  get?
    | .inl s, key => Store.get? s key
    | .inr s, key => Store.get? s key
  put
    | .inl s, key, value =>
      let (outcome, s) := Store.put s key value
      (outcome, .inl s)
    | .inr s, key, value =>
      let (outcome, s) := Store.put s key value
      (outcome, .inr s)

end FleetOrders
