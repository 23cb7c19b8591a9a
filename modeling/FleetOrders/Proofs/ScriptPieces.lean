/-
FleetOrders.Proofs.ScriptPieces — a script read piece by piece is the script.

A run over a file reads as much as it needs, deals with the lines that have
ended, and keeps the rest for the next piece. Where the pieces are cut plays
no part, since the lines of two byte sequences in a row are the ended lines of
the first and those of its rest with the second (`Text.rawLines_append`).

Sending changes the history, and the history may be kept among the very files
that scripts are read from. So what is asked of a source is asked of the
histories of one run (`Batch.Delivers`). A file that is called something else
than that of the history is such a source (`CommandLine.LiesAside`).

* `Batch.lines_append` — one part of a script, then the other.
* `Batch.feed_eq` — the loop, from a position on, with what is left over from
  the pieces before.
* `Batch.runFrom_eq_run` — a whole run.
* `CommandLine.runFrom_fileSource` — a run over a file, as the command line
  has it.
-/
import FleetOrders.CommandLine
import FleetOrders.Proofs.SparedFiles

namespace FleetOrders

/-! ## Lines in pieces -/

namespace Text

/-- The lines of the bytes that a line feed ends. -/
def endedLines (bs : List UInt8) : List RawLine :=
  (rawLines bs).filter (·.ended)

/-- The bytes behind the last line feed. -/
def unendedBytes (bs : List UInt8) : List UInt8 :=
  ((rawLines bs).filter (!·.ended)).flatMap (·.bytes)

/-- Only the last line of a byte sequence can be one that has not ended. -/
theorem eq_nil_of_rawLines {bs : List UInt8} {line : RawLine} {more : List RawLine}
    (h : rawLines bs = line :: more) (hended : line.ended = false) : more = [] := by
  induction bs generalizing line with
  | nil => cases h
  | cons b bs ih =>
    rw [rawLines] at h
    split at h
    · cases h
      cases hended
    · split at h
      · cases h
        rfl
      · next first others hbs =>
        cases h
        exact ih hbs hended

theorem rawLines_eq_nil_iff {bs : List UInt8} : rawLines bs = [] ↔ bs = [] := by
  cases bs with
  | nil => simp [rawLines]
  | cons b bs =>
    rw [rawLines]
    split
    · simp
    · split <;> simp

/-- The lines of two byte sequences in a row. -/
theorem rawLines_append (bs cs : List UInt8) :
    rawLines (bs ++ cs) = endedLines bs ++ rawLines (unendedBytes bs ++ cs) := by
  induction bs with
  | nil => rfl
  | cons b bs ih =>
    by_cases hfeed : b = 0x0A
    · simp [rawLines, hfeed, endedLines, unendedBytes, ih]
    cases hlines : rawLines bs with
    | nil =>
      obtain rfl := rawLines_eq_nil_iff.mp hlines
      simp [rawLines, hfeed, endedLines, unendedBytes]
    | cons line more =>
      rw [endedLines, unendedBytes, hlines] at ih
      cases hended : line.ended with
      | true =>
        simp [rawLines, hfeed, endedLines, unendedBytes, hlines, hended, ih]
      | false =>
        -- what has not ended is all of the lines, and the next bytes go on from it
        obtain rfl := eq_nil_of_rawLines hlines hended
        simp [rawLines, hfeed, endedLines, unendedBytes, hlines, hended, ih]

end Text

/-! ## Runs in pieces -/

namespace Batch

variable {σ : Type} [Store σ] {s : Snapshot} {accept : Bool}

/-- One part of a script, then the other. -/
theorem lines_append (b : Batch σ) (number : Nat) (xs ys : List (Except String String)) :
    b.lines s accept number (xs ++ ys) =
      match b.lines s accept number xs with
      | (some fault, b) => (some fault, b)
      | (none, b) => b.lines s accept (number + xs.length) ys := by
  induction xs generalizing b number with
  | nil => rfl
  | cons x xs ih =>
    cases x with
    | error why => rfl
    | ok line =>
      rw [List.cons_append, lines, lines]
      cases b.step s accept number line with
      | mk fault b =>
        cases fault with
        | some fault => rfl
        | none =>
          dsimp only
          rw [ih, List.length_cons, Nat.add_right_comm, Nat.add_assoc]

theorem console_send (b : Batch σ) (sub : Submission) :
    (b.send sub).2.console = b.console.commit sub := by
  unfold send
  split <;> rfl

/-- What a history keeps while orders are added is kept by a line. -/
theorem step_keeps {holds : History σ → Prop} (hadd : ∀ h wire, holds h → holds (h.add wire))
    {b : Batch σ} (number : Nat) (line : String) (hb : holds b.console.history) :
    holds (b.step s accept number line).2.console.history := by
  simp only [step]
  split
  · exact hb
  · split
    · exact hb
    · split
      · exact hb
      · rw [console_send]
        exact hadd _ _ hb

/-- What a history keeps while orders are added is kept by a script. -/
theorem lines_keeps {holds : History σ → Prop} (hadd : ∀ h wire, holds h → holds (h.add wire))
    {b : Batch σ} (number : Nat) (script : List (Except String String))
    (hb : holds b.console.history) :
    holds (b.lines s accept number script).2.console.history := by
  induction script generalizing b number with
  | nil => exact hb
  | cons x script ih =>
    cases x with
    | error why => exact hb
    | ok line =>
      have hstep : holds (b.step s accept number line).2.console.history :=
        step_keeps hadd number line hb
      rw [lines]
      cases hline : b.step s accept number line with
      | mk fault next =>
        rw [hline] at hstep
        cases fault with
        | some fault => exact hstep
        | none => exact ih _ hstep

/-- The source hands out these bytes to a run with such histories: from every
position on the next of them, and nothing only at their end. -/
structure Delivers (source : Source σ) (bs : Bytes) (holds : History σ → Prop) : Prop where
  /-- Sending an order leaves the history such a history. -/
  add : ∀ h wire, holds h → holds (h.add wire)
  piece : ∀ h position, holds h → ∃ piece, source h.store position = .ok piece ∧
    piece <+: bs.drop position ∧ (piece = [] → bs.length ≤ position)
  /-- No file is longer. -/
  length : bs.length ≤ lastPosition

variable {source : Source σ} {bs : Bytes} {holds : History σ → Prop}

namespace Delivers

variable (h : Delivers source bs holds) {b : Batch σ} (hb : holds b.console.history)
include h hb

theorem nextPiece (position : Nat) :
    ∃ piece, b.nextPiece source position = .ok piece ∧ piece <+: bs.drop position ∧
      (piece = [] → bs.length ≤ position) := by
  unfold Batch.nextPiece
  split
  · exact h.piece _ _ hb
  · have := h.length
    exact ⟨[], rfl, List.nil_prefix, fun _ => by omega⟩

theorem nextPiece_ne_error {position : Nat} {why : String} :
    b.nextPiece source position ≠ .error why := by
  obtain ⟨piece, hpiece, -⟩ := h.nextPiece hb position
  simp [hpiece]

theorem drop_of_nil {position : Nat} (hpiece : b.nextPiece source position = .ok []) :
    bs.drop position = [] := by
  obtain ⟨piece, hnext, -, hend⟩ := h.nextPiece hb position
  cases hpiece.symm.trans hnext
  exact List.drop_eq_nil_iff.mpr (hend rfl)

theorem drop_of_piece {position : Nat} {piece : Bytes}
    (hpiece : b.nextPiece source position = .ok piece) :
    bs.drop position = piece ++ bs.drop (position + piece.length) := by
  obtain ⟨_, hnext, ⟨rest, hrest⟩, -⟩ := h.nextPiece hb position
  cases hpiece.symm.trans hnext
  rw [← List.drop_drop, ← hrest, List.drop_left]

end Delivers

/-- The lines of a script that are known from its first bytes, then the
others. -/
theorem script_append {xs ys : Bytes} {ended rest : List Text.RawLine}
    (hlines : (Text.rawLines xs).partition (·.ended) = (ended, rest)) :
    script (xs ++ ys) = ended.map ofRawLine ++ script (rest.flatMap (·.bytes) ++ ys) := by
  rw [List.partition_eq_filter_filter, Prod.mk.injEq] at hlines
  obtain ⟨rfl, rfl⟩ := hlines
  rw [script, Text.rawLines_append, List.map_append]
  rfl

/-- The rest of a script, with what is left over of a line that has not
ended. -/
theorem feed_eq (h : Delivers source bs holds) (position number : Nat) (unfinished : Bytes)
    (b : Batch σ) (hb : holds b.console.history) :
    feed s accept source position number unfinished b =
      b.lines s accept number (script (unfinished ++ bs.drop position)) := by
  fun_induction feed s accept source position number unfinished b with
  | case1 position number unfinished b why hpiece =>
    exact absurd hpiece (h.nextPiece_ne_error hb)
  | case2 position number b hpiece =>
    rw [h.drop_of_nil hb hpiece]
    rfl
  | case3 position number unfinished b hpiece hne fault next hlines =>
    rw [h.drop_of_nil hb hpiece, List.append_nil, hlines]
  | case4 position number unfinished b hpiece hne next hlines ih =>
    have hnext : holds (b.lines s accept number (script unfinished)).2.console.history :=
      lines_keeps h.add number _ hb
    rw [hlines] at hnext
    -- the last line has no end; the source is asked once more and has nothing
    rw [ih hnext, h.drop_of_nil hb hpiece, List.append_nil unfinished, hlines]
    rfl
  | case5 position number unfinished b x more hpiece ended rest hended fault next hlines =>
    rw [h.drop_of_piece hb hpiece, ← List.append_assoc, script_append hended, lines_append, hlines]
  | case6 position number unfinished b x more hpiece ended rest hended next hlines ih =>
    have hnext : holds (b.lines s accept number (ended.map ofRawLine)).2.console.history :=
      lines_keeps h.add number _ hb
    rw [hlines] at hnext
    -- what has not ended goes in front of the next piece
    rw [ih hnext, h.drop_of_piece hb hpiece, ← List.append_assoc, script_append hended,
      lines_append, hlines, List.length_map, List.length_cons]

/-- A script that is read piece by piece is dealt with as it is when it is
known from the start. -/
theorem runFrom_eq_run (h : Delivers source bs holds) {console : Console σ} (sink : Sink)
    (hconsole : holds console.history) :
    runFrom s accept console sink source = run s accept console sink (script bs) := by
  rw [runFrom, feed_eq h 0 1 [] ⟨console, sink, .empty⟩ hconsole]
  rfl

end Batch

/-! ## Scripts in files -/

namespace CommandLine

variable {w : Surroundings} {place : Location} {e : Entry}

/-- The entry is at the place, and a history in a directory is in a file of
another name. -/
structure LiesAside (w : Surroundings) (place : Location) (e : Entry)
    (h : History HistoryStore) : Prop where
  item : (filesAfter w h.store).item? place = some e
  other : ∀ d, h.store = .inr d → place.getLast? ≠ some (DirectoryStore.fileName h.key)

theorem LiesAside.persist {h : History HistoryStore} (hscript : LiesAside w place e h) :
    LiesAside w place e h.persist := by
  obtain ⟨store, key, capacity, entries, cursor⟩ := h
  cases store with
  | inl m => exact ⟨hscript.item, nofun⟩
  | inr d =>
    have hother := hscript.other d rfl
    exact ⟨d.spares_put key _ hother _ hscript.item, fun _ _ => hother⟩

/-- Adding an order to the history leaves the script as it is. -/
theorem LiesAside.add {h : History HistoryStore} (hscript : LiesAside w place e h)
    (wire : String) : LiesAside w place e (h.add wire) := by
  simp only [History.add]
  split
  · exact ⟨hscript.item, hscript.other⟩
  · exact LiesAside.persist ⟨hscript.item, hscript.other⟩

theorem delivers_fileSource {content : Bytes} (hread : e.read = .ok content)
    (hlength : content.length ≤ Batch.lastPosition) :
    Batch.Delivers (fileSource w place) content (LiesAside w place e) where
  add _ wire hscript := hscript.add wire
  piece h position hscript := by
    refine ⟨(content.drop position).take pieceSize, ?_, List.take_prefix _ _, fun hend => ?_⟩
    · simp only [fileSource, FileTree.readFrom, FileTree.readAt, hscript.item, hread]
      rfl
    · simpa [pieceSize] using hend
  length := hlength

/-- A run over a file is a run over the lines that stand in it, if the history
is kept in memory or in a file of another name. -/
theorem runFrom_fileSource {s : Snapshot} {accept : Bool} {console : Console HistoryStore}
    {content : Bytes} (sink : Sink)
    (hread : (filesAfter w console.history.store).readAt place = .ok content)
    (hlength : content.length ≤ Batch.lastPosition)
    (hother : ∀ d, console.history.store = .inr d →
      place.getLast? ≠ some (DirectoryStore.fileName console.history.key)) :
    Batch.runFrom s accept console sink (fileSource w place) =
      Batch.run s accept console sink (Batch.script content) := by
  unfold FileTree.readAt at hread
  split at hread
  · cases hread
  · next e hitem =>
    exact Batch.runFrom_eq_run (delivers_fileSource hread hlength) sink ⟨hitem, hother⟩

end CommandLine

end FleetOrders
