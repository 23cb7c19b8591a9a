/-
FleetOrders.Proofs.SparedFiles — what keeping a history leaves alone.

A history in a directory makes the directories on its way and one file. What
is in the other files stays, wherever they lie (`FileTree.Spares`), and what
tells them from the file of the history is their last name alone: a path may
take a detour through `..`, but it ends in the name it ends in.

* `FileTree.spares_makeDirectories` — directories are only made where nothing
  is.
* `FileTree.spares_create` — a file is written under the last name of its
  path.
* `DirectoryStore.spares_put` — both of them, for the store.
-/
import FleetOrders.Proofs.Readers
import FleetOrders.Store

namespace FleetOrders

open Reading (bind_eq_ok)

/-! ## The last name of a path -/

namespace Path

theorem split_ne_nil (chars : List Char) : split chars ≠ [] := by
  cases chars with
  | nil => nofun
  | cons c rest =>
    rw [split]
    split
    · nofun
    · split <;> nofun

theorem split_of_notMem {name : List Char} (h : '/' ∉ name) : split name = [name] := by
  induction name with
  | nil => rfl
  | cons c name ih =>
    obtain ⟨hc, hname⟩ : '/' ≠ c ∧ '/' ∉ name := by simpa using h
    rw [split, if_neg (Ne.symm hc), ih hname]

theorem split_append_slash (above name : List Char) :
    split (above ++ '/' :: name) = split above ++ split name := by
  induction above with
  | nil => rfl
  | cons c above ih =>
    rw [List.cons_append, split, split, ih]
    split
    · rfl
    · cases habove : split above with
      | nil => exact absurd habove (split_ne_nil above)
      | cons part parts => rfl

theorem getLast?_names {path name : String} (above : List (List Char)) (hne : name ≠ "")
    (h : split path.toList = above ++ [name.toList]) : (names path).getLast? = some name := by
  have hparts : ((split path.toList).filter (!·.isEmpty)).map String.ofList =
      (above.filter (!·.isEmpty)).map String.ofList ++ [name] := by
    simp [h, hne]
  simp only [names, hparts]
  split
  · rw [← List.cons_append, List.getLast?_concat]
  · rw [List.getLast?_concat]

/-- A name below a directory is the last name of its path. -/
theorem getLast?_names_join (directory : String) {name : String} (hne : name ≠ "")
    (h : '/' ∉ name.toList) : (names (join directory name)).getLast? = some name := by
  have hbelow (above : List Char) :
      split (above ++ '/' :: name.toList) = split above ++ [name.toList] := by
    rw [split_append_slash, split_of_notMem h]
  unfold join
  split
  · next hdirectory =>
    obtain rfl | hslash := by simpa [namesDirectory] using hdirectory
    · refine getLast?_names [] hne ?_
      simpa using split_of_notMem h
    · obtain ⟨above, habove⟩ := List.getLast?_eq_some_iff.mp hslash
      refine getLast?_names (split above) hne ?_
      rw [String.toList_append, habove, List.append_assoc, ← hbelow]
      rfl
  · refine getLast?_names (split directory.toList) hne ?_
    rw [String.toList_append, String.toList_append, List.append_assoc, ← hbelow]
    rfl

end Path

theorem DirectoryStore.getLast?_names_pathOf (d : DirectoryStore) (key : String) :
    (Path.names (d.pathOf key)).getLast? = some (fileName key) := by
  have hsafe (c : Char) : (if isSafe c then c else '_') ≠ '/' := by
    split
    · next hc => rintro rfl; exact absurd hc (by decide)
    · decide
  refine Path.getLast?_names_join d.directory ?_ ?_
  · intro hempty
    have := congrArg String.toList hempty
    simp [fileName] at this
  · simp [fileName, hsafe]

/-! ## Trees -/

namespace FileTree

/-- What is at the place in the first tree is there in the second, too. -/
def Spares (t t' : FileTree) (place : Location) : Prop :=
  ∀ e, t.item? place = some e → t'.item? place = some e

variable {t t' t'' : FileTree} {place other : Location} {names : List String}

theorem Spares.refl (t : FileTree) (place : Location) : t.Spares t place :=
  fun _ h => h

theorem Spares.trans (h : t.Spares t' place) (h' : t'.Spares t'' place) : t.Spares t'' place :=
  fun e he => h' e (h e he)

/-! ### Single places -/

theorem find?_put_of_ne (t : FileTree) (h : place ≠ other) (e : Entry) :
    (t.put other e).entries.find? (·.1 == place) = t.entries.find? (·.1 == place) := by
  rw [put, List.find?_cons_of_neg (by simpa using Ne.symm h), List.find?_filter]
  congr 1
  funext old
  by_cases hplace : old.1 = place <;> simp [hplace, h]

theorem item?_put_of_ne (t : FileTree) (h : place ≠ other) (e : Entry) :
    (t.put other e).item? place = t.item? place := by
  rw [item?, find?_put_of_ne t h]
  rfl

theorem spares_put (h : place ≠ other) (e : Entry) : t.Spares (t.put other e) place :=
  fun _ he => (item?_put_of_ne t h e).trans he

theorem spares_put_of_none (h : t.item? other = none) (e : Entry) (place : Location) :
    t.Spares (t.put other e) place := by
  by_cases hne : place = other
  · intro e he
    simp [hne, h] at he
  · exact spares_put hne e

/-- A name that can be that of an entry is the last name of its place. -/
theorem getLast?_below {name : String} (hname : Path.isStanding name = false)
    (h : t.below place name = .ok other) : other.getLast? = some name := by
  simp only [Path.isStanding, Bool.or_eq_false_iff, beq_eq_false_iff_ne] at hname
  obtain ⟨⟨hroot, hhere⟩, habove⟩ := hname
  rw [below, if_neg hroot, if_neg hhere, if_neg habove] at h
  split at h
  · cases h
  · split at h
    · cases h
    · cases h
      exact List.getLast?_concat

theorem getLast?_of_parent {name : String} (h : t.parent names = .ok (place, some name)) :
    names.getLast? = some name := by
  rw [parent, bind_eq_ok] at h
  obtain ⟨found, -, h⟩ := h
  split at h
  · simp only [Except.ok.injEq, Prod.mk.injEq] at h
    exact h.2
  · cases h

/-! ### Directories -/

theorem spares_makeDirectory (h : t.makeDirectory names = .ok t') (place : Location) :
    t.Spares t' place := by
  rw [makeDirectory, bind_eq_ok] at h
  obtain ⟨⟨above, name?⟩, -, h⟩ := h
  cases name? with
  | none => cases h
  | some name =>
    dsimp only at h
    split at h
    · cases h
    · rw [bind_eq_ok] at h
      obtain ⟨target, -, h⟩ := h
      split at h
      · cases h
      · next hnothing =>
        cases h
        exact spares_put_of_none (by simpa using hnothing) .directory place

theorem spares_ensureDirectory (h : t.ensureDirectory names = .ok t') (place : Location) :
    t.Spares t' place := by
  unfold ensureDirectory at h
  split at h
  · split at h
    · cases h
      exact .refl t place
    · cases h
  · exact spares_makeDirectory h place

theorem spares_ensureDirectories (t : FileTree) (all : List (List String)) (place : Location) :
    t.Spares (t.ensureDirectories all).2 place := by
  induction all generalizing t with
  | nil => exact .refl t place
  | cons names above ih =>
    have habove := ih t
    rw [ensureDirectories]
    split
    · next hmade => exact spares_ensureDirectory hmade place
    · split
      · next hfailed => exact hfailed ▸ habove
      · next hdone =>
        rw [hdone] at habove
        split
        · next hmade => exact habove.trans (spares_ensureDirectory hmade place)
        · exact habove
    · exact .refl t place

theorem spares_makeDirectories (t : FileTree) (path : String) (place : Location) :
    t.Spares (t.makeDirectories path).2 place := by
  unfold makeDirectories
  split
  · exact .refl t place
  · exact spares_ensureDirectories t _ place

/-! ### Files -/

/-- A file is opened under the last name of its path. -/
theorem openEmpty_facts {path : String} (h : t.openEmpty path = .ok (place, t')) :
    place.getLast? = (Path.names path).getLast? ∧ (t' = t ∨ t' = t.put place (.file [])) := by
  unfold openEmpty at h
  split at h
  · cases h
  split at h
  · cases h
  rw [bind_eq_ok] at h
  obtain ⟨⟨above, name?⟩, hparent, h⟩ := h
  cases name? with
  | none => cases h
  | some name =>
    dsimp only at h
    split at h
    · cases h
    · next hname =>
      rw [bind_eq_ok] at h
      obtain ⟨target, hbelow, h⟩ := h
      have hstanding : Path.isStanding name = false := by
        simp only [Bool.or_eq_true, not_or, Bool.not_eq_true] at hname
        exact hname.1
      have hlast : target.getLast? = (Path.names path).getLast? :=
        (getLast?_below hstanding hbelow).trans (getLast?_of_parent hparent).symm
      split at h <;> cases h
      · exact ⟨hlast, .inr rfl⟩
      · exact ⟨hlast, .inr rfl⟩
      · exact ⟨hlast, .inl rfl⟩
      · exact ⟨hlast, .inl rfl⟩

theorem spares_writeAt {content : Bytes} (h : t.writeAt other content = .ok t')
    (hne : place ≠ other) : t.Spares t' place := by
  unfold writeAt at h
  split at h
  · cases h
  · next e _ =>
    cases hwrite : e.write content with
    | error e =>
      rw [hwrite] at h
      cases h
    | ok written =>
      rw [hwrite] at h
      cases h
      exact spares_put hne written

/-- A file is written under the last name of its path. -/
theorem spares_create {path : String} {content : Bytes} (h : t.create path content = .ok t')
    (hname : place.getLast? ≠ (Path.names path).getLast?) : t.Spares t' place := by
  rw [create, bind_eq_ok] at h
  obtain ⟨⟨target, opened⟩, hopen, hwrite⟩ := h
  obtain ⟨hlast, hopened⟩ := openEmpty_facts hopen
  have hne : place ≠ target := by
    rintro rfl
    exact hname hlast
  have hspares : t.Spares opened place := by
    obtain rfl | rfl := hopened
    · exact .refl _ place
    · exact spares_put hne _
  exact hspares.trans (spares_writeAt hwrite hne)

end FileTree

/-- Keeping bytes under a key spares every file that is called something
else than the file for the key. -/
theorem DirectoryStore.spares_put (d : DirectoryStore) (key : String) (value : Bytes)
    {place : Location} (h : place.getLast? ≠ some (fileName key)) :
    d.tree.Spares (Store.put d key value).2.tree place := by
  have hdirectories := FileTree.spares_makeDirectories d.tree d.directory place
  simp only [Store.put]
  split
  · next hfailed =>
    rw [hfailed] at hdirectories
    exact hdirectories
  · next hmade =>
    rw [hmade] at hdirectories
    split
    · exact hdirectories
    · next hcreated =>
      refine hdirectories.trans (FileTree.spares_create hcreated ?_)
      rw [getLast?_names_pathOf]
      exact h

end FleetOrders
