/-
FleetOrders.History — the commands that were sent, newest last.

A history keeps a bounded number of entries and can be walked: up towards
older entries, down towards newer ones, and out at the newer end. Every
change of the entries is saved in a store. Saving and loading never fail:
what cannot be saved is not saved, and what cannot be loaded is an empty
history.
-/
import FleetOrders.MessagePack
import FleetOrders.Store
import FleetOrders.Text.Blank

namespace FleetOrders

/-- Which way to walk. -/
inductive Direction where
  /-- Towards older entries. -/
  | up
  /-- Towards newer entries. -/
  | down
  deriving DecidableEq, Repr

/-- The commands that were sent. -/
structure History (σ : Type) where
  store : σ
  /-- The key that the entries are saved under. -/
  key : String
  /-- How many entries are kept. -/
  capacity : Nat
  /-- The entries, oldest first. -/
  entries : List String
  /-- The place of the entry that is shown, while the history is walked. -/
  cursor : Option Nat

namespace History

/-! ## Entries as bytes -/

/-- Entries as bytes: a list of texts. -/
def entryBytes (entries : List String) : Bytes :=
  MessagePack.list MessagePack.text entries

/-- The entries that the bytes start with. -/
def entriesOf? (bs : Bytes) : Option (List String) :=
  (MessagePack.list? MessagePack.string? (fun _ => none) bs).map (·.1)

/-- The newest entries, at most `capacity` of them. -/
def newest (capacity : Nat) (entries : List String) : List String :=
  entries.drop (entries.length - capacity)

variable {σ : Type} [Store σ]

/-! ## Start -/

/-- A history without entries. -/
def new (store : σ) (key : String) (capacity : Nat) : History σ :=
  ⟨store, key, capacity, [], none⟩

/-- The entries that a store holds under a key; none if it holds nothing
that can be read. -/
def saved (store : σ) (key : String) : List String :=
  match Store.get? store key with
  | .ok (some bs) => (entriesOf? bs).getD []
  | _ => []

/-- The history that a store holds under a key. -/
def load (store : σ) (key : String) (capacity : Nat) : History σ :=
  ⟨store, key, capacity, newest capacity (saved store key), none⟩

/-! ## Changes -/

variable (h : History σ)

/-- Saves the entries. -/
def persist : History σ :=
  { h with store := (Store.put h.store h.key (entryBytes h.entries)).2 }

/-- One more command. Blanks around it do not count; a blank command and
the newest entry over again are not kept. The walk ends in any case. -/
def add (command : String) : History σ :=
  let text := Text.trimmed command
  if text = "" ∨ h.entries.getLast? = some text then { h with cursor := none }
  else
    { h with entries := newest h.capacity (h.entries ++ [text]), cursor := none }.persist

/-- Forgets all entries. -/
def clear : History σ :=
  { h with entries := [], cursor := none }.persist

/-! ## Walking -/

/-- The entry that is shown. -/
def current? : Option String :=
  h.cursor.bind fun i => h.entries[i]?

/-- Where a step leads. Up from outside shows the newest entry; up stops
at the oldest; down from the newest leads out. -/
def step (direction : Direction) : Option Nat :=
  match direction, h.cursor with
  | .up, none => if h.entries.isEmpty then none else some (h.entries.length - 1)
  | .up, some i => some (i - 1)
  | .down, none => none
  | .down, some i => if h.entries.length ≤ i + 1 then none else some (i + 1)

/-- One step. What is shown then is `current?`. -/
def navigate (direction : Direction) : History σ :=
  { h with cursor := h.step direction }

/-- Ends the walk. -/
def resetNavigation : History σ :=
  { h with cursor := none }

/-- The history is being walked. -/
def isNavigating : Bool :=
  h.cursor.isSome

end History

end FleetOrders
