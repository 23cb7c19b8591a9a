/-
FleetOrders.Proofs.HistoryPersistence — a history survives a restart.

Every action that changes the entries saves them, so once one has been
saved the store holds the entries of the history (`History.Saved`), and what
it holds is read back. What a history shows never depends on its store
afterwards: two histories that start alike stay alike, whatever their
stores do (`History.Alike`).

* `Store.Keeps` — what is put under a key is found there.
* `History.Saved.act`, `History.saved_of_changes` — the store keeps up with
  the entries.
* `History.survives_restart` — loading after a run gives the newest entries
  of the run, and a run is the same over a store that refuses everything.
-/
import FleetOrders.Proofs.HistoryRuns
import FleetOrders.Proofs.MessagePackRoundTrip

namespace FleetOrders

/-! ## Stores that keep what they are given -/

namespace Store

variable {σ : Type} [Store σ]

/-- Whatever is put under the key, now or after other bytes were put there,
is found there. -/
def Keeps (store : σ) (key : String) : Prop :=
  ∀ (earlier : List Bytes) (value : Bytes),
    get? (put (earlier.foldl (fun s v => (put s key v).2) store) key value).2 key =
      .ok (some value)

variable {store : σ} {key : String}

theorem Keeps.put (h : Keeps store key) (value : Bytes) :
    Keeps (Store.put store key value).2 key :=
  fun earlier => h (value :: earlier)

theorem Keeps.get?_put (h : Keeps store key) (value : Bytes) :
    get? (Store.put store key value).2 key = .ok (some value) :=
  h [] value

end Store

/-- A store in memory keeps everything. -/
theorem MemoryStore.keeps (store : MemoryStore) (key : String) : Store.Keeps store key := by
  intro earlier value
  show Except.ok ((MemoryStore.insert _ key value).find? key) = Except.ok (some value)
  rw [find?_insert, if_pos rfl]

namespace History

/-! ## Entries read back -/

/-- The entries and the bytes of each of them can be counted in 32 bits,
which is what their saved form has room for. -/
def Fits (entries : List String) : Prop :=
  entries.length < UInt32.size ∧ ∀ e ∈ entries, (Text.utf8 e).length < UInt32.size

instance (entries : List String) : Decidable (Fits entries) :=
  inferInstanceAs (Decidable (_ ∧ _))

/-- The bytes of each entry can be counted in 32 bits, however many entries
there are. -/
def Short (entries : List String) : Prop :=
  ∀ e ∈ entries, (Text.utf8 e).length < UInt32.size

instance (entries : List String) : Decidable (Short entries) :=
  inferInstanceAs (Decidable (∀ e ∈ entries, _))

/-- As many entries are read back as can be told in 32 bits. -/
theorem entriesOf?_of_short {entries : List String} (h : Short entries) :
    entriesOf? (entryBytes entries) = some (entries.take (entries.length % UInt32.size)) := by
  have hread := MessagePack.list?_list (fun e he => MessagePack.readsBack_text (h e he))
    (fun _ => none) []
  rw [List.append_nil] at hread
  rw [entriesOf?, entryBytes, hread]
  rfl

theorem entriesOf?_entryBytes {entries : List String} (h : Fits entries) :
    entriesOf? (entryBytes entries) = some entries := by
  rw [entriesOf?_of_short h.2, Nat.mod_eq_of_lt h.1, List.take_length]

/-- An entry of 2³² bytes is read back as one of none. -/
theorem entriesOf?_overlong {e : String} (h : (Text.utf8 e).length = UInt32.size) :
    entriesOf? (entryBytes [e]) = some [""] := by
  have hread : ∀ rest, MessagePack.many? MessagePack.string? 1 (MessagePack.text e ++ rest) =
      some ([""], Text.utf8 e ++ rest) := fun rest => by
    simp [MessagePack.many?, MessagePack.string?_overlong h rest]
  have hhead := MessagePack.head?_listHead 1 (MessagePack.text e)
  have htext := hread []
  rw [List.append_nil] at htext
  simp [entriesOf?, entryBytes, MessagePack.list, MessagePack.list?, hhead, htext]

variable {σ τ : Type}

section Saved

variable [Store σ] {h : History σ}

/-- The store holds the entries. -/
def Saved (h : History σ) : Prop :=
  Store.get? h.store h.key = .ok (some (entryBytes h.entries))

/-- The action changes the entries, or forgets them. -/
def Changes (h : History σ) : Action → Prop
  | .add command =>
    ¬(Text.trimmed command = "" ∨ h.entries.getLast? = some (Text.trimmed command))
  | .clear => True
  | _ => False

instance (h : History σ) (a : Action) : Decidable (h.Changes a) :=
  match a with
  | .add _ => inferInstanceAs (Decidable (¬_))
  | .clear => inferInstanceAs (Decidable True)
  | .navigate _ | .resetNavigation => inferInstanceAs (Decidable False)

theorem persist_saved (hkeeps : Store.Keeps h.store h.key) : h.persist.Saved :=
  hkeeps.get?_put _

theorem keeps_persist (hkeeps : Store.Keeps h.store h.key) :
    Store.Keeps h.persist.store h.persist.key :=
  hkeeps.put _

/-- An action either leaves the entries and the store alone or saves the
entries. -/
theorem act_cases (h : History σ) (a : Action) :
    (¬h.Changes a ∧ (h.act a).store = h.store ∧ (h.act a).key = h.key ∧
      (h.act a).entries = h.entries) ∨
    ∃ entries, h.Changes a ∧ h.act a = { h with entries, cursor := none }.persist := by
  cases a with
  | add command =>
    simp only [act, add, Changes]
    split
    · next hsame => exact .inl ⟨not_not_intro hsame, rfl, rfl, rfl⟩
    · next hnew => exact .inr ⟨_, hnew, rfl⟩
  | navigate direction => exact .inl ⟨id, rfl, rfl, rfl⟩
  | resetNavigation => exact .inl ⟨id, rfl, rfl, rfl⟩
  | clear => exact .inr ⟨[], trivial, rfl⟩

theorem key_act (h : History σ) (a : Action) : (h.act a).key = h.key := by
  rcases h.act_cases a with ⟨-, -, hkey, -⟩ | ⟨entries, -, hact⟩
  · exact hkey
  · rw [hact]
    rfl

theorem keeps_act (hkeeps : Store.Keeps h.store h.key) (a : Action) :
    Store.Keeps (h.act a).store (h.act a).key := by
  rcases h.act_cases a with ⟨-, hstore, hkey, -⟩ | ⟨entries, -, hact⟩
  · rwa [hstore, hkey]
  · rw [hact]
    exact keeps_persist hkeeps

/-- An action that changes the entries saves them. -/
theorem saved_of_changes (hkeeps : Store.Keeps h.store h.key) {a : Action} (ha : h.Changes a) :
    (h.act a).Saved := by
  rcases h.act_cases a with ⟨hsame, -⟩ | ⟨entries, -, hact⟩
  · exact absurd ha hsame
  · rw [hact]
    exact persist_saved hkeeps

/-- What is saved stays saved. -/
theorem Saved.act (hsaved : h.Saved) (hkeeps : Store.Keeps h.store h.key) (a : Action) :
    (h.act a).Saved := by
  rcases h.act_cases a with ⟨-, hstore, hkey, hentries⟩ | ⟨entries, -, hact⟩
  · rwa [Saved, hstore, hkey, hentries]
  · rw [hact]
    exact persist_saved hkeeps

theorem key_run (h : History σ) (as : List Action) : (h.run as).key = h.key := by
  induction as generalizing h with
  | nil => rfl
  | cons a as ih => exact (ih (h.act a)).trans (h.key_act a)

theorem Saved.run (hsaved : h.Saved) (hkeeps : Store.Keeps h.store h.key) (as : List Action) :
    (h.run as).Saved := by
  induction as generalizing h with
  | nil => exact hsaved
  | cons a as ih => exact ih (hsaved.act hkeeps a) (keeps_act hkeeps a)

/-- Some action of the run changes the entries. -/
def SomeChange (h : History σ) : List Action → Prop
  | [] => False
  | a :: as => h.Changes a ∨ (h.act a).SomeChange as

/-- A run that changes the entries leaves them saved. -/
theorem saved_of_someChange (hkeeps : Store.Keeps h.store h.key) {as : List Action}
    (hchange : h.SomeChange as) : (h.run as).Saved := by
  -- before the first change the store may hold other entries than the history, as when
  -- loading has cut them; from that change on the two agree
  induction as generalizing h with
  | nil => cases hchange
  | cons a as ih =>
    have hkeeps' := keeps_act hkeeps a
    rcases hchange with ha | hlater
    · exact (saved_of_changes hkeeps ha).run hkeeps' as
    · exact ih hkeeps' hlater

/-- What is saved is what a history starts with the next time. -/
theorem Saved.load (hsaved : h.Saved) (hfits : Fits h.entries) (capacity : Nat) :
    History.load h.store h.key capacity =
      ⟨h.store, h.key, capacity, newest capacity h.entries, none⟩ := by
  have hread : saved h.store h.key = h.entries := by
    have hget : Store.get? h.store h.key = .ok (some (entryBytes h.entries)) := hsaved
    simp [saved, hget, entriesOf?_entryBytes hfits]
  rw [History.load, hread]

end Saved

/-! ## Histories over different stores -/

/-- Two histories show the same and will go on doing so. -/
structure Alike (h : History σ) (g : History τ) : Prop where
  capacity : h.capacity = g.capacity
  entries : h.entries = g.entries
  cursor : h.cursor = g.cursor

namespace Alike

variable {h : History σ} {g : History τ}

theorem current? (hg : h.Alike g) : h.current? = g.current? := by
  rw [History.current?, History.current?, hg.entries, hg.cursor]

theorem navigate (hg : h.Alike g) (direction : Direction) :
    (h.navigate direction).Alike (g.navigate direction) where
  capacity := hg.capacity
  entries := hg.entries
  cursor := by
    show h.step direction = g.step direction
    cases direction with
    | up => simp only [step, hg.entries, hg.cursor]
    | down => simp only [step, hg.entries, hg.cursor]

theorem answer? (hg : h.Alike g) (a : Action) : h.answer? a = g.answer? a := by
  cases a with
  | navigate direction => exact (hg.navigate direction).current?
  | _ => rfl

variable [Store σ] [Store τ]

/-- What one action preserves. -/
theorem act (hg : h.Alike g) (a : Action) : (h.act a).Alike (g.act a) := by
  cases a with
  | add command =>
    exact ⟨by simpa [History.act] using hg.capacity,
      by simp only [History.act, entries_add, hg.entries, hg.capacity],
      by simp [History.act]⟩
  | navigate direction => exact hg.navigate direction
  | resetNavigation => exact ⟨hg.capacity, hg.entries, rfl⟩
  | clear => exact ⟨hg.capacity, rfl, rfl⟩

/-- What a run preserves. -/
theorem run (hg : h.Alike g) (as : List Action) : (h.run as).Alike (g.run as) := by
  induction as generalizing h g with
  | nil => exact hg
  | cons a as ih => exact ih (hg.act a)

end Alike

/-! ## Restarts -/

/-- How a history starts. -/
inductive Start where
  | new
  | load
  deriving DecidableEq, Repr

section

variable [Store σ]

/-- The history at its start. -/
def Start.history (start : Start) (store : σ) (key : String) (capacity : Nat) : History σ :=
  match start with
  | .new => .new store key capacity
  | .load => .load store key capacity

theorem Start.history_facts (start : Start) (store : σ) (key : String) (capacity : Nat) :
    (start.history store key capacity).store = store ∧
      (start.history store key capacity).key = key := by
  cases start <;> exact ⟨rfl, rfl⟩

/-- What the actions of a run give back. -/
def answers (h : History σ) : List Action → List (Option String)
  | [] => []
  | a :: as => h.answer? a :: (h.act a).answers as

end

variable [Store σ] [Store τ]

theorem Alike.answers {h : History σ} {g : History τ} (hg : h.Alike g) (as : List Action) :
    h.answers as = g.answers as := by
  induction as generalizing h g with
  | nil => rfl
  | cons a as ih => rw [History.answers, History.answers, hg.answer? a, ih (hg.act a)]

theorem Start.alike (start : Start) {store : σ} {other : τ} {key : String}
    (h : start = .load → saved other key = saved store key) (capacity : Nat) :
    (start.history store key capacity).Alike (start.history other key capacity) := by
  cases start with
  | new => exact ⟨rfl, rfl, rfl⟩
  | load => exact ⟨rfl, congrArg (newest capacity) (h rfl).symm, rfl⟩

/-- A history survives a restart. Over a store that keeps what it is given,
a run that changed the entries is followed by the newest of its entries,
as many as then are kept, outside of a walk. Over any other store, also one
that refuses to keep anything, the run shows and gives back the same; only
if the history is loaded, the entries it is loaded with must be the same. -/
theorem survives_restart (start : Start) (store : σ) (key : String) (capacity : Nat)
    (as : List Action) :
    (Store.Keeps store key → (start.history store key capacity).SomeChange as →
      Fits ((start.history store key capacity).run as).entries → ∀ later,
        (load ((start.history store key capacity).run as).store key later).entries =
          ((start.history store key capacity).run as).entries.rtake later ∧
        (load ((start.history store key capacity).run as).store key later).isNavigating =
          false) ∧
    (∀ {τ : Type} [Store τ] (other : τ), (start = .load → saved other key = saved store key) →
      ((start.history other key capacity).run as).entries =
        ((start.history store key capacity).run as).entries ∧
      ((start.history other key capacity).run as).cursor =
        ((start.history store key capacity).run as).cursor ∧
      (start.history other key capacity).answers as =
        (start.history store key capacity).answers as) := by
  obtain ⟨hstore, hkey⟩ := start.history_facts store key capacity
  constructor
  · intro hkeeps hchange hfits later
    have hkeeps' : Store.Keeps (start.history store key capacity).store
        (start.history store key capacity).key := by rwa [hstore, hkey]
    have hload := (saved_of_someChange hkeeps' hchange).load hfits later
    rw [key_run, hkey] at hload
    rw [hload]
    exact ⟨rfl, rfl⟩
  · intro τ _ other hsame
    have hg := start.alike hsame capacity
    exact ⟨(hg.run as).entries.symm, (hg.run as).cursor.symm, (hg.answers as).symm⟩

/-- Two commands over a store in memory, of which the newer one is loaded,
and the same two over a store that can neither be read nor written. -/
theorem survives_restart_demo :
    (load ((Start.load.history MemoryStore.empty "k" 5).run
      [.add "F1W2", .add " TURN ", .navigate .up]).store "k" 1).entries = ["TURN"] ∧
    ∀ fault, (Start.load.history (RefusingStore.mk MemoryStore.empty (some fault) (some fault))
      "k" 5).answers [.add "F1W2", .add " TURN ", .navigate .up] = [none, none, some "TURN"] := by
  obtain ⟨hkept, hrefused⟩ := survives_restart .load MemoryStore.empty "k" 5
    [.add "F1W2", .add " TURN ", .navigate .up]
  have hchange : (Start.load.history MemoryStore.empty "k" 5).SomeChange
      [.add "F1W2", .add " TURN ", .navigate .up] := .inl (by decide +kernel)
  have hfits : Fits ((Start.load.history MemoryStore.empty "k" 5).run
      [.add "F1W2", .add " TURN ", .navigate .up]).entries := by decide +kernel
  constructor
  · rw [(hkept (MemoryStore.keeps _ _) hchange hfits 1).1]
    decide +kernel
  · intro fault
    have hshut := hrefused (RefusingStore.mk MemoryStore.empty (some fault) (some fault))
    rw [(hshut fun _ => rfl).2.2]
    decide +kernel

end History

end FleetOrders
