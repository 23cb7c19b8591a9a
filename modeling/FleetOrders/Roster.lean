/-
FleetOrders.Roster — entities filed under 32-bit numbers.

A roster holds at most one entity under a number and lists them by
ascending number. The order is part of the type, so a roster is determined
by what it files: two rosters are equal when their listings are.

* `empty`, `insert`, `ofEntries` — an entity filed under a number replaces
  the one that was there.
* `get?` — the entity under a number.
* `entries`, `values` — the listing, with and without the numbers.

`entries_insert` and `get?_insert` say what `insert` does to the listing
and to look-ups; `ofEntries_entries` says that a listing, filed entry by entry,
makes the roster that it lists.
-/

namespace FleetOrders

/-- Entities filed under numbers, listed by ascending number. -/
structure Roster (α : Type) where
  entries : List (UInt32 × α)
  ascending : entries.Pairwise (fun a b => a.1 < b.1)

namespace Roster

variable {α : Type}

instance [DecidableEq α] : DecidableEq (Roster α) := fun a b =>
  if h : a.entries = b.entries then
    isTrue (by cases a; cases b; simp_all)
  else isFalse (fun e => h (e ▸ rfl))

/-- The roster that files nothing. -/
def empty : Roster α :=
  ⟨[], .nil⟩

/-- An entry put at its place in an ascending listing. -/
def place (n : UInt32) (x : α) : List (UInt32 × α) → List (UInt32 × α)
  | [] => [(n, x)]
  | e :: rest =>
    if n < e.1 then (n, x) :: e :: rest
    else if n = e.1 then (n, x) :: rest
    else e :: place n x rest

theorem mem_place {n : UInt32} {x : α} {e : UInt32 × α} :
    ∀ {es : List (UInt32 × α)}, e ∈ place n x es → e = (n, x) ∨ e ∈ es
  | [], h => by simpa [place] using h
  | d :: rest, h => by
      unfold place at h
      split at h
      · simpa using h
      · split at h
        · rcases List.mem_cons.mp h with h | h
          · exact .inl h
          · exact .inr (List.mem_cons_of_mem _ h)
        · rcases List.mem_cons.mp h with h | h
          · exact .inr (h ▸ List.mem_cons_self)
          · exact (mem_place h).imp id (List.mem_cons_of_mem _)

theorem pairwise_place {n : UInt32} {x : α} :
    ∀ {es : List (UInt32 × α)}, es.Pairwise (fun a b => a.1 < b.1) →
      (place n x es).Pairwise (fun a b => a.1 < b.1)
  | [], _ => by simp [place]
  | d :: rest, h => by
      have hd := List.pairwise_cons.mp h
      unfold place
      split
      · rename_i hlt
        refine List.pairwise_cons.mpr ⟨fun e he => ?_, h⟩
        rcases List.mem_cons.mp he with rfl | he
        · exact hlt
        · exact UInt32.lt_trans hlt (hd.1 e he)
      · split
        · rename_i heq
          exact List.pairwise_cons.mpr ⟨fun e he => heq ▸ hd.1 e he, hd.2⟩
        · rename_i hlt hne
          refine List.pairwise_cons.mpr ⟨fun e he => ?_, pairwise_place hd.2⟩
          rcases mem_place he with rfl | he
          · exact UInt32.lt_of_le_of_ne (UInt32.not_lt.mp hlt) (fun h => hne h.symm)
          · exact hd.1 e he

/-- The roster with an entity filed under a number. -/
def insert (r : Roster α) (n : UInt32) (x : α) : Roster α :=
  ⟨place n x r.entries, pairwise_place r.ascending⟩

@[simp] theorem entries_insert (r : Roster α) (n : UInt32) (x : α) :
    (r.insert n x).entries = place n x r.entries := rfl

/-- Entities filed one after the other: of two under one number the later
stays. -/
def ofEntries (es : List (UInt32 × α)) : Roster α :=
  es.foldl (fun r e => r.insert e.1 e.2) empty

/-- An entity goes to the end of a listing of lower numbers. -/
theorem place_of_forall_lt {n : UInt32} {x : α} :
    ∀ {es : List (UInt32 × α)}, (∀ e ∈ es, e.1 < n) → place n x es = es ++ [(n, x)]
  | [], _ => rfl
  | d :: rest, h => by
      have hd : d.1 < n := h d List.mem_cons_self
      have hrest : place n x rest = rest ++ [(n, x)] :=
        place_of_forall_lt fun e he => h e (List.mem_cons_of_mem d he)
      unfold place
      rw [if_neg (UInt32.lt_asymm hd), if_neg (UInt32.ne_of_lt hd).symm, hrest,
        List.cons_append]

theorem entries_foldl_insert {es : List (UInt32 × α)} {r : Roster α}
    (h : (r.entries ++ es).Pairwise fun a b => a.1 < b.1) :
    (es.foldl (fun r e => r.insert e.1 e.2) r).entries = r.entries ++ es := by
  induction es generalizing r with
  | nil => simp
  | cons e es ih =>
    have hlast : (r.insert e.1 e.2).entries = r.entries ++ [e] :=
      place_of_forall_lt fun d hd =>
        (List.pairwise_append.mp h).2.2 d hd e List.mem_cons_self
    have hsplit : r.entries ++ e :: es = (r.insert e.1 e.2).entries ++ es := by
      rw [hlast, List.append_assoc, List.singleton_append]
    rw [hsplit] at h ⊢
    exact ih h

/-- An ascending listing is the listing of its own roster. -/
theorem entries_ofEntries {es : List (UInt32 × α)} (h : es.Pairwise fun a b => a.1 < b.1) :
    (ofEntries es).entries = es :=
  entries_foldl_insert (r := empty) h

/-- A roster is made of its listing. -/
@[simp] theorem ofEntries_entries (r : Roster α) : ofEntries r.entries = r := by
  have h := entries_ofEntries r.ascending
  obtain ⟨es, hes⟩ := r
  generalize ofEntries es = q at h
  cases h
  rfl

/-- The entity filed under a number. -/
def get? (r : Roster α) (n : UInt32) : Option α :=
  (r.entries.find? (fun e => e.1 == n)).map (·.2)

theorem find?_place (n m : UInt32) (x : α) :
    ∀ es : List (UInt32 × α), es.Pairwise (fun a b => a.1 < b.1) →
      ((place n x es).find? (fun e => e.1 == m)).map (·.2) =
        if n = m then some x else (es.find? (fun e => e.1 == m)).map (·.2)
  | [], _ => by by_cases h : n = m <;> simp [place, h]
  | d :: rest, hs => by
      have hd := List.pairwise_cons.mp hs
      unfold place
      split
      · by_cases h : n = m <;> simp [h]
      · split
        · rename_i heq
          by_cases h : n = m
          · simp [h]
          · have : ¬ d.1 = m := heq ▸ h
            simp [h, this]
        · rename_i hne
          by_cases hdm : d.1 = m
          · have : ¬ n = m := fun e => hne (e.trans hdm.symm)
            simp [hdm, this]
          · simpa [hdm] using find?_place n m x rest hd.2

/-- Filing an entity changes the look-up under its number and no other. -/
theorem get?_insert (r : Roster α) (n m : UInt32) (x : α) :
    (r.insert n x).get? m = if n = m then some x else r.get? m :=
  find?_place n m x r.entries r.ascending

/-- What is found under a number is listed with it. -/
theorem mem_of_get? {r : Roster α} {n : UInt32} {x : α} (h : r.get? n = some x) :
    (n, x) ∈ r.entries := by
  obtain ⟨e, he, rfl⟩ := Option.map_eq_some_iff.mp h
  have hnumber : e.1 = n := by simpa using List.find?_some he
  rw [← hnumber]
  exact List.mem_of_find?_eq_some he

/-- The entities by ascending number. -/
def values (r : Roster α) : List α :=
  r.entries.map (·.2)

theorem mem_values_of_get? {r : Roster α} {n : UInt32} {x : α} (h : r.get? n = some x) :
    x ∈ r.values :=
  List.mem_map.mpr ⟨(n, x), mem_of_get? h, rfl⟩

end Roster

end FleetOrders
