/-
FleetOrders.Proofs.Failures — where the readers of orders fail.

What each reader accepts is in `Proofs.Readers`. What it refuses is here, in
one shape again: the tokens start with some words, and what comes behind them
cannot be read. A number is due in eight places, and reading fails there when
no number of 32 bits follows. Otherwise it fails at the first token of all, or
behind the number of a fleet or a world.

* `NumberDue` — the words of an order behind which a number is due.
* `Fails` — the four ways in which reading an order fails.
* `fails_of_order_error` — there is no other.
-/
import FleetOrders.Proofs.Readers

namespace FleetOrders

open Text (word32?)

namespace Reading

variable {ts : List Token} {e : SyntaxError}

theorem bind_eq_error {ε α β : Type} {x : Except ε α} {f : α → Except ε β} {e : ε} :
    (x >>= f) = .error e ↔ x = .error e ∨ ∃ a, x = .ok a ∧ f a = .error e := by
  cases x with
  | error e => simp [bind, Except.bind]
  | ok a => simp [bind, Except.bind]

theorem error_of_bind {ε α β : Type} {x : Except ε α} {f : α → Except ε β} {a : α} {e : ε}
    (h : (x >>= f) = .error e) (hx : x = .ok a) : f a = .error e := by
  rw [hx] at h
  exact h

/-! ## Single tokens -/

theorem one_error {kind : TokenKind} (h : one kind ts = .error e) :
    (next ts).kind ≠ kind ∧ e = .expected (.one kind) (next ts) := by
  unfold one at h
  split at h
  · cases h
  · injection h with h
    exact ⟨‹_›, h.symm⟩

theorem one_of_next {kind : TokenKind} (h : (next ts).kind = kind) :
    one kind ts = .ok (next ts, ts.tail) :=
  if_pos h

/-- No number is read where something else stands, or a number that is too
large. -/
theorem number_error (h : number ts = .error e) :
    ((next ts).kind ≠ .number ∧ e = .expected (.one .number) (next ts)) ∨
      ((next ts).kind = .number ∧ word32? (next ts).text.toList = none ∧
        e = .numberOutOfRange (next ts)) := by
  rcases bind_eq_error.mp h with hone | ⟨⟨t, rest⟩, hone, hword⟩
  · exact .inl (one_error hone)
  · obtain ⟨rfl, hkind⟩ := (one_eq_ok_iff (by decide)).mp hone
    dsimp only at hword
    split at hword
    · cases hword
    · injection hword with hword
      exact .inr ⟨hkind, ‹_›, hword.symm⟩

theorem found_of_number_error (h : number ts = .error e) : e.found = next ts := by
  rcases number_error h with ⟨-, rfl⟩ | ⟨-, -, rfl⟩ <;> rfl

/-! ## Parts of orders -/

/-- Behind the words a number is read, and it fails. -/
def NoNumber (ws : List Word) (ts : List Token) (e : SyntaxError) : Prop :=
  ∃ rest, Leads ws ts rest ∧ number rest = .error e

theorem NoNumber.behind {vs ws : List Word} {mid : List Token} (h : NoNumber ws mid e)
    (hvs : Leads vs ts mid) : NoNumber (vs ++ ws) ts e := by
  obtain ⟨rest, hws, hnumber⟩ := h
  exact ⟨rest, leads_append.mpr ⟨mid, hvs, hws⟩, hnumber⟩

theorem hops_error (h : hops ts = .error e) :
    ∃ path : List WorldId, NoNumber (path.flatMap WorldId.words ++ [.sign .worldMark]) ts e := by
  fun_induction hops ts with
  | case1 => cases h
  | case2 mark hmark =>
    injection h with h
    exact ⟨[], [], leads_sign_of_next hmark, h ▸ rfl⟩
  | case3 mark hmark digits more ih =>
    have hsign : Leads [.sign .worldMark] (mark :: digits :: more) (digits :: more) :=
      leads_sign_of_next hmark
    rcases bind_eq_error.mp h with hnumber | ⟨⟨n, left⟩, hnumber, h⟩
    · exact ⟨[], _, hsign, hnumber⟩
    · rcases bind_eq_error.mp h with hhops | ⟨_, -, h⟩
      · obtain ⟨path, hpath⟩ := ih hhops
        obtain ⟨_, _, htokens, hdigits, rfl⟩ := number_eq_ok_iff.mp hnumber
        obtain ⟨rfl, rfl⟩ := List.cons.inj htokens
        have hworld : Leads (WorldId.mk n).words (mark :: digits :: more) more :=
          ⟨mark, _, rfl, hmark, digits, more, rfl, hdigits, rfl⟩
        exact ⟨⟨n⟩ :: path, hpath.behind hworld⟩
      · cases h
  | case4 mark more hmark => cases h

theorem destination?_error (h : destination? ts = .error e) :
    NoNumber [.sign .fleetMark] ts e := by
  unfold destination? at h
  split at h
  · cases h
  · cases h
  · rename_i hkind
    rcases bind_eq_error.mp h with hnumber | ⟨_, -, h⟩
    · exact ⟨ts.tail, leads_sign_of_next hkind, hnumber⟩
    · cases h
  · cases h

theorem attack_error {fleet : FleetId} (h : attack fleet ts = .error e) :
    NoNumber [.sign .fleetMark] ts e := by
  rw [attack_eq_destination?] at h
  rcases bind_eq_error.mp h with hgoal | ⟨_, -, h⟩
  · exact destination?_error hgoal
  · cases h

theorem transfer_error {fleet : FleetId} (h : transfer fleet ts = .error e) :
    number ts = .error e ∨ ∃ n, NoNumber [.number n, .sign .fleetMark] ts e := by
  rcases bind_eq_error.mp h with hnumber | ⟨⟨n, rest⟩, hnumber, h⟩
  · exact .inl hnumber
  · rcases bind_eq_error.mp h with hgoal | ⟨⟨goal, left⟩, -, h⟩
    · exact .inr ⟨n, (destination?_error hgoal).behind (number_eq_ok_iff.mp hnumber)⟩
    · cases goal <;> cases h

/-! ## Orders -/

/-- The words of an order behind which a number is due. -/
inductive NumberDue : List Word → Prop where
  | fleet : NumberDue [.sign .fleetMark]
  | world : NumberDue [.sign .worldMark]
  | hop (f : FleetId) (path : List WorldId) :
      NumberDue (f.words ++ (path.flatMap WorldId.words ++ [.sign .worldMark]))
  | transferAmount (f : FleetId) : NumberDue (f.words ++ [.sign .transfer])
  | transferTarget (f : FleetId) (n : UInt32) :
      NumberDue (f.words ++ [.sign .transfer, .number n, .sign .fleetMark])
  | attackTarget (f : FleetId) : NumberDue (f.words ++ [.sign .attack, .sign .fleetMark])
  | buildAmount (w : WorldId) : NumberDue (w.words ++ [.sign .build])
  | buildTarget (w : WorldId) (n : UInt32) :
      NumberDue (w.words ++ [.sign .build, .number n, .sign .fleetMark])

/-- How reading an order fails: no number follows where one is due; the first
token starts no order; no action follows a fleet; no build follows a world. At
the end of the line only a number can be missing. -/
inductive Fails (ts : List Token) : SyntaxError → Prop where
  | number {ws : List Word} {e : SyntaxError} :
      NumberDue ws → NoNumber ws ts e → Fails ts e
  | start : (next ts).kind ∉ orderStarts → (next ts).isEnd = false →
      Fails ts (.expected (.anyOf orderStarts) (next ts))
  | fleetAction {f : FleetId} {rest : List Token} :
      Leads f.words ts rest → (next rest).kind ∉ fleetActions → (next rest).isEnd = false →
      Fails ts (.expected (.anyOf fleetActions) (next rest))
  | worldAction {w : WorldId} {rest : List Token} :
      Leads w.words ts rest → (next rest).kind ≠ .build → (next rest).isEnd = false →
      Fails ts (.expected (.one .build) (next rest))

theorem fails_of_fleetOrder_error (hkind : (next ts).kind = .fleetMark)
    (h : fleetOrder ts = .error e) : Fails ts e := by
  have hmark : Leads [.sign .fleetMark] ts ts.tail := leads_sign_of_next hkind
  replace h := error_of_bind h (one_of_next hkind)
  rcases bind_eq_error.mp h with hnumber | ⟨⟨n, left⟩, hnumber, h⟩
  · exact .number .fleet ⟨ts.tail, hmark, hnumber⟩
  have hfleet : Leads (FleetId.mk n).words ts left :=
    leads_sign_iff.mpr ⟨hkind, number_eq_ok_iff.mp hnumber⟩
  dsimp only at h
  split at h
  · cases h
  · rcases bind_eq_error.mp h with hhops | ⟨_, -, h⟩
    · obtain ⟨path, hpath⟩ := hops_error hhops
      exact .number (.hop _ path) (hpath.behind hfleet)
    · cases h
  · next hnext =>
    have hsign : Leads [.sign .transfer] left left.tail := leads_sign_of_next hnext
    rcases transfer_error h with hamount | ⟨amount, htarget⟩
    · exact .number (.transferAmount _) ⟨_, leads_append.mpr ⟨left, hfleet, hsign⟩, hamount⟩
    · exact .number (.transferTarget _ amount) ((htarget.behind hsign).behind hfleet)
  · next hnext =>
    have hsign : Leads [.sign .attack] left left.tail := leads_sign_of_next hnext
    exact .number (.attackTarget _) (((attack_error h).behind hsign).behind hfleet)
  · next hend hworld htransfer hattack =>
    injection h with h
    refine h ▸ .fleetAction hfleet ?_ (by simpa [Token.isEnd] using hend)
    simpa [fleetActions] using ⟨hworld, htransfer, hattack⟩

theorem fails_of_worldOrder_error (hkind : (next ts).kind = .worldMark)
    (h : worldOrder ts = .error e) : Fails ts e := by
  have hmark : Leads [.sign .worldMark] ts ts.tail := leads_sign_of_next hkind
  replace h := error_of_bind h (one_of_next hkind)
  rcases bind_eq_error.mp h with hnumber | ⟨⟨n, left⟩, hnumber, h⟩
  · exact .number .world ⟨ts.tail, hmark, hnumber⟩
  have hworld : Leads (WorldId.mk n).words ts left :=
    leads_sign_iff.mpr ⟨hkind, number_eq_ok_iff.mp hnumber⟩
  dsimp only at h
  split at h
  · cases h
  next hend =>
  rcases bind_eq_error.mp h with hbuild | ⟨⟨t, after⟩, hbuild, h⟩
  · obtain ⟨hne, rfl⟩ := one_error hbuild
    exact .worldAction hworld hne (by simpa using hend)
  have hsign : Leads [.sign .build] left after := one_sign_iff.mp ⟨t, hbuild⟩
  rcases bind_eq_error.mp h with hamount | ⟨⟨amount, rest⟩, hamount, h⟩
  · exact .number (.buildAmount _) ⟨after, leads_append.mpr ⟨left, hworld, hsign⟩, hamount⟩
  rcases bind_eq_error.mp h with hgoal | ⟨⟨goal, _⟩, -, h⟩
  · have hnumber := (destination?_error hgoal).behind (number_eq_ok_iff.mp hamount)
    exact .number (.buildTarget _ amount) ((hnumber.behind hsign).behind hworld)
  · cases goal <;> cases h

/-- Reading an order fails in one of the four ways. -/
theorem fails_of_order_error (h : order ts = .error e) : Fails ts e := by
  unfold order at h
  split at h
  · cases h
  · next hkind =>
    rcases bind_eq_error.mp h with h | ⟨_, -, h⟩
    · exact fails_of_fleetOrder_error hkind h
    · cases h
  · next hkind =>
    rcases bind_eq_error.mp h with h | ⟨_, -, h⟩
    · exact fails_of_worldOrder_error hkind h
    · cases h
  · cases h
  · cases h
  · next hend hfleet hworld hjoin hturn =>
    injection h with h
    refine h ▸ .start ?_ (by simpa [Token.isEnd] using hend)
    simpa [orderStarts] using ⟨hfleet, hworld, hjoin, hturn⟩

end Reading

end FleetOrders
