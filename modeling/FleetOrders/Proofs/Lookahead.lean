/-
FleetOrders.Proofs.Lookahead — no order is read past a `JOIN`.

`JOIN` takes no part in orders to fleets and worlds, so their readers stop in
front of it at the latest: what stands behind it changes neither what is
read nor which error is met (`HeedsJoin`). The readers are put together from
one another by `HeedsJoin.bind` and by a look at the first token
(`HeedsJoin.of_first`), and so are the proofs.

* `heedsJoin_fleetOrder`, `heedsJoin_worldOrder` — orders to fleets and to
  worlds.
* `order_past_join` — a line whose first `JOIN` is not its first token.
-/
import FleetOrders.Proofs.Readers

namespace FleetOrders.Reading

variable {α β : Type}

/-- The reader never looks past a `JOIN`: it gives one result, whatever
follows, and leaves the `JOIN` and what follows it over. -/
def HeedsJoin (read : List Token → Except SyntaxError (α × List Token)) : Prop :=
  ∀ (ws : List Token) (j : Token), j.kind = .join →
    ∃ result : Except SyntaxError (α × List Token), ∀ tail,
      read (ws ++ j :: tail) = result.map fun p => (p.1, p.2 ++ j :: tail)

/-! ## How readers are put together -/

theorem heedsJoin_ok (x : α) : HeedsJoin fun ts => .ok (x, ts) :=
  fun ws _ _ => ⟨.ok (x, ws), fun _ => rfl⟩

theorem heedsJoin_keep (x : α) (t : Token) : HeedsJoin fun ts => .ok (x, t :: ts) :=
  fun ws _ _ => ⟨.ok (x, t :: ws), fun _ => rfl⟩

theorem heedsJoin_error (e : SyntaxError) :
    HeedsJoin fun _ => (.error e : Except SyntaxError (α × List Token)) :=
  fun _ _ _ => ⟨.error e, fun _ => rfl⟩

theorem HeedsJoin.bind {read : List Token → Except SyntaxError (α × List Token)}
    {f : α × List Token → Except SyntaxError (β × List Token)} (h : HeedsJoin read)
    (hf : ∀ x, HeedsJoin fun ts => f (x, ts)) : HeedsJoin fun ts => read ts >>= f := by
  intro ws j hj
  obtain ⟨result, hresult⟩ := h ws j hj
  cases result with
  | error e =>
    refine ⟨.error e, fun tail => ?_⟩
    show (read (ws ++ j :: tail) >>= f) = _
    rw [hresult tail]
    rfl
  | ok p =>
    obtain ⟨x, left⟩ := p
    obtain ⟨final, hfinal⟩ := hf x left j hj
    refine ⟨final, fun tail => ?_⟩
    show (read (ws ++ j :: tail) >>= f) = _
    rw [hresult tail]
    exact hfinal tail

theorem HeedsJoin.behind {read : List Token → Except SyntaxError (α × List Token)}
    (h : HeedsJoin read) (t : Token) : HeedsJoin fun ts => read (t :: ts) :=
  fun ws => h (t :: ws)

/-- A reader that leaves a `JOIN` at the head alone is told by what it does
behind every first token. -/
theorem HeedsJoin.of_first {read : List Token → Except SyntaxError (α × List Token)}
    (hjoin : ∀ j, j.kind = .join → ∃ result : Except SyntaxError (α × List Token), ∀ tail,
      read (j :: tail) = result.map fun p => (p.1, p.2 ++ j :: tail))
    (hfirst : ∀ t, HeedsJoin fun ts => read (t :: ts)) : HeedsJoin read := by
  intro ws j hj
  cases ws with
  | nil => exact hjoin j hj
  | cons t ws => exact hfirst t ws j hj

/-- A look at the first token may decide which reader goes on. -/
theorem HeedsJoin.ite_next {p : Token → Bool}
    {f g : List Token → Except SyntaxError (α × List Token)}
    (hp : ∀ j, j.kind = .join → p j = false) (hf : HeedsJoin f) (hg : HeedsJoin g) :
    HeedsJoin fun ts => if p (next ts) then f ts else g ts := by
  intro ws j hj
  cases ws with
  | nil =>
    obtain ⟨result, hresult⟩ := hg [] j hj
    refine ⟨result, fun tail => ?_⟩
    simpa [next, hp j hj] using hresult tail
  | cons t ws =>
    cases ht : p t with
    | false =>
      obtain ⟨result, hresult⟩ := hg (t :: ws) j hj
      exact ⟨result, fun tail => by simpa [next, ht] using hresult tail⟩
    | true =>
      obtain ⟨result, hresult⟩ := hf (t :: ws) j hj
      exact ⟨result, fun tail => by simpa [next, ht] using hresult tail⟩

/-! ## Readers -/

theorem heedsJoin_one {kind : TokenKind} (hkind : kind ≠ .join) : HeedsJoin (one kind) := by
  refine .of_first (fun j hj => ⟨.error (.expected (.one kind) j), fun tail => ?_⟩) fun t => ?_
  · rw [one, next, List.headD_cons, hj, if_neg hkind.symm]
    rfl
  · by_cases ht : t.kind = kind
    · have hread : (fun ts => one kind (t :: ts)) = fun ts => .ok (t, ts) :=
        funext fun ts => if_pos ht
      exact hread ▸ heedsJoin_ok t
    · have hread : (fun ts => one kind (t :: ts)) = fun _ => .error (.expected (.one kind) t) :=
        funext fun ts => if_neg ht
      exact hread ▸ heedsJoin_error _

theorem heedsJoin_number : HeedsJoin number := by
  refine (heedsJoin_one (by decide)).bind fun t => ?_
  dsimp only
  cases Text.word32? t.text.toList with
  | none => exact heedsJoin_error _
  | some n => exact heedsJoin_ok n

theorem hops_of_no_mark {t : Token} (h : t.kind ≠ .worldMark) (ts : List Token) :
    hops (t :: ts) = .ok ([], t :: ts) := by
  unfold hops
  exact if_neg h

theorem hops_of_mark {mark : Token} (h : mark.kind = .worldMark) (digits : Token)
    (ts : List Token) :
    hops (mark :: digits :: ts) = (do
      let (n, _) ← number (digits :: ts)
      let (path, left) ← hops ts
      .ok (⟨n⟩ :: path, left)) := by
  rw [hops, if_pos h]

theorem heedsJoin_hops : HeedsJoin hops := by
  intro ws j hj
  have hstop : ∀ tail, hops (j :: tail) = .ok ([], j :: tail) :=
    hops_of_no_mark (by simp [hj])
  fun_induction hops ws with
  | case1 => exact ⟨.ok ([], []), hstop⟩
  | case2 mark hmark =>
    refine ⟨.error (.expected (.one .number) j), fun tail => ?_⟩
    have hone : one .number (j :: tail) = .error (.expected (.one .number) j) :=
      if_neg (by simp [next, hj])
    rw [List.singleton_append, hops_of_mark hmark, number, hone]
    rfl
  | case3 mark hmark digits more ih =>
    obtain ⟨first, hfirst⟩ := heedsJoin_number (digits :: more) j hj
    obtain ⟨others, hothers⟩ := ih
    refine ⟨first >>= fun p => others.map fun q => (⟨p.1⟩ :: q.1, q.2), fun tail => ?_⟩
    rw [List.cons_append, List.cons_append, hops_of_mark hmark, ← List.cons_append,
      hfirst tail, hothers tail]
    cases first <;> cases others <;> rfl
  | case4 mark more hno =>
    exact ⟨.ok ([], mark :: more), fun tail => hops_of_no_mark hno _⟩

theorem heedsJoin_destination? : HeedsJoin destination? := by
  refine .of_first (fun j hj => ⟨.ok (none, []), fun tail => ?_⟩) fun t => ?_
  · simp only [destination?, next, List.headD_cons, hj]
    rfl
  · obtain ⟨kind, text, offset⟩ := t
    cases kind with
    | industry => exact heedsJoin_ok _
    | population => exact heedsJoin_ok _
    | fleetMark => exact heedsJoin_number.bind fun n => heedsJoin_ok _
    | _ => exact heedsJoin_keep _ _

theorem heedsJoin_attack (fleet : FleetId) : HeedsJoin (attack fleet) := by
  rw [attack_eq_destination?]
  exact heedsJoin_destination?.bind fun goal => heedsJoin_ok (attackOn fleet goal)

theorem heedsJoin_transfer (fleet : FleetId) : HeedsJoin (transfer fleet) := by
  refine heedsJoin_number.bind fun amount => heedsJoin_destination?.bind fun goal => ?_
  cases goal with
  | none => exact heedsJoin_ok _
  | some d => exact heedsJoin_ok _

/-- An order to a fleet is not read past a `JOIN`. -/
theorem heedsJoin_fleetOrder : HeedsJoin fleetOrder := by
  refine (heedsJoin_one (by decide)).bind fun mark => heedsJoin_number.bind fun n => ?_
  refine .of_first (fun j hj => ⟨.error (.expected (.anyOf fleetActions) j), fun tail => ?_⟩)
    fun t => ?_
  · simp only [next, List.headD_cons, hj]
    rfl
  · obtain ⟨kind, text, offset⟩ := t
    cases kind with
    | endOfInput => exact heedsJoin_keep _ _
    | worldMark => exact (heedsJoin_hops.behind _).bind fun path => heedsJoin_ok _
    | transfer => exact heedsJoin_transfer _
    | attack => exact heedsJoin_attack _
    | _ => exact heedsJoin_error (.expected (.anyOf fleetActions) ⟨_, text, offset⟩)

/-- An order to a world is not read past a `JOIN`. -/
theorem heedsJoin_worldOrder : HeedsJoin worldOrder := by
  refine (heedsJoin_one (by decide)).bind fun mark => heedsJoin_number.bind fun n => ?_
  dsimp only
  refine .ite_next (by simp_all [Token.isEnd]) (heedsJoin_ok _) ?_
  refine (heedsJoin_one (by decide)).bind fun build => heedsJoin_number.bind fun amount => ?_
  dsimp only
  refine heedsJoin_destination?.bind fun goal => ?_
  cases goal with
  | none => exact heedsJoin_ok _
  | some d => exact heedsJoin_ok _

/-! ## Orders -/

/-- Behind a first token other than `JOIN`, no order is read past a
`JOIN`. -/
theorem order_past_join {t j : Token} (ht : t.kind ≠ .join) (hj : j.kind = .join)
    (ws : List Token) :
    ∃ result : Except SyntaxError (Option Command × List Token), ∀ tail,
      order (t :: ws ++ j :: tail) = result.map fun p => (p.1, p.2 ++ j :: tail) := by
  have hread : HeedsJoin fun ts => order (t :: ts) := by
    obtain ⟨kind, text, offset⟩ := t
    cases kind with
    | endOfInput => exact heedsJoin_keep _ _
    | fleetMark => exact (heedsJoin_fleetOrder.behind _).bind fun c => heedsJoin_ok _
    | worldMark => exact (heedsJoin_worldOrder.behind _).bind fun c => heedsJoin_ok _
    | join => exact absurd rfl ht
    | turn => exact heedsJoin_ok _
    | _ => exact heedsJoin_error (.expected (.anyOf orderStarts) ⟨_, text, offset⟩)
  exact hread ws j hj

end FleetOrders.Reading
