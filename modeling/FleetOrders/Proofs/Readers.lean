/-
FleetOrders.Proofs.Readers — what each reader of orders accepts.

Every theorem here has one shape: a reader returns a value and a rest
exactly when the tokens start with the words of the value and the rest
begins as the reader wants it to. `order_eq_ok_iff` says so of whole
orders, and `StopsBefore` of what the rest may begin with; all that is
proved about readings elsewhere goes through these two.
-/
import FleetOrders.Command.Reading
import FleetOrders.Proofs.Words

namespace FleetOrders

namespace Reading

theorem bind_eq_ok {ε α β : Type} {x : Except ε α} {f : α → Except ε β} {b : β} :
    (x >>= f) = .ok b ↔ ∃ a, x = .ok a ∧ f a = .ok b := by
  cases x with
  | error e => simp [bind, Except.bind]
  | ok a => simp [bind, Except.bind]

theorem ok_pair_inj {ε α β : Type} {a c : α} {b d : β}
    (h : (.ok (a, b) : Except ε (α × β)) = .ok (c, d)) : a = c ∧ b = d := by
  injection h with h
  exact Prod.mk.inj h

/-! ## Single tokens -/

theorem one_eq_ok_iff {kind : TokenKind} (hkind : kind ≠ .endOfInput) {ts rest : List Token}
    {t : Token} : one kind ts = .ok (t, rest) ↔ ts = t :: rest ∧ t.kind = kind := by
  cases ts with
  | nil =>
    have hne : ¬ (next []).kind = kind := fun h => hkind h.symm
    simp [one, hne]
  | cons u us =>
    unfold one
    split
    · rename_i hu
      constructor
      · intro h
        obtain ⟨rfl, rfl⟩ := ok_pair_inj h
        exact ⟨rfl, hu⟩
      · rintro ⟨h, -⟩
        injection h with ht hrest
        rw [← ht, ← hrest]
        rfl
    · rename_i hu
      constructor
      · intro h
        cases h
      · rintro ⟨h, ht⟩
        injection h with h
        exact absurd (h ▸ ht) hu

/-- A sign is one token of its kind. -/
theorem one_sign_iff {s : Sign} {ts rest : List Token} :
    (∃ t, one s.kind ts = .ok (t, rest)) ↔ Leads [.sign s] ts rest := by
  simp only [one_eq_ok_iff s.kind_ne_endOfInput, leads_cons, leads_nil, Word.Fits]
  constructor
  · rintro ⟨t, hts, ht⟩
    exact ⟨t, rest, hts, ht, rfl⟩
  · intro h
    obtain ⟨t, _, hts, ht, rfl⟩ := h
    exact ⟨t, hts, ht⟩

theorem number_eq_ok_iff {ts rest : List Token} {n : UInt32} :
    number ts = .ok (n, rest) ↔ Leads [.number n] ts rest := by
  simp only [number, bind_eq_ok, leads_cons, leads_nil, Word.Fits]
  constructor
  · intro h
    obtain ⟨⟨t, more⟩, hone, hword⟩ := h
    obtain ⟨hts, ht⟩ := (one_eq_ok_iff (by decide)).mp hone
    simp only at hword
    split at hword
    · rename_i m hm
      obtain ⟨hn, hrest⟩ := ok_pair_inj hword
      exact ⟨t, more, hts, ⟨ht, hn ▸ hm⟩, hrest⟩
    · cases hword
  · intro h
    obtain ⟨t, more, hts, ⟨ht, hn⟩, rfl⟩ := h
    exact ⟨(t, more), (one_eq_ok_iff (by decide)).mpr ⟨hts, ht⟩, by simp [hn]⟩

/-- The first token is a sign: then it leads the tokens. -/
theorem leads_sign_of_next {s : Sign} {ts : List Token} (h : (next ts).kind = s.kind) :
    Leads [.sign s] ts ts.tail := by
  cases ts with
  | nil => exact absurd h.symm s.kind_ne_endOfInput
  | cons t ts => exact ⟨t, ts, rfl, h, rfl⟩

theorem next_of_leads {w : Word} {ws : List Word} {ts rest : List Token}
    (h : Leads (w :: ws) ts rest) : (next ts).kind = w.kind ∧ Leads ws ts.tail rest := by
  obtain ⟨t, more, rfl, ht, hws⟩ := h
  exact ⟨ht.kind, hws⟩

/-- The first token is a sign, and what follows starts with the words. -/
theorem leads_sign_iff {s : Sign} {ws : List Word} {ts rest : List Token} :
    Leads (.sign s :: ws) ts rest ↔ (next ts).kind = s.kind ∧ Leads ws ts.tail rest := by
  constructor
  · exact next_of_leads
  · rintro ⟨hnext, hws⟩
    obtain ⟨t, more, hts, ht, rfl⟩ := leads_sign_of_next hnext
    exact ⟨t, _, hts, ht, hws⟩

/-! ## Parts of orders -/

theorem leads_hop_iff {w : WorldId} {ws : List Word} {ts rest : List Token} :
    Leads (w.words ++ ws) ts rest ↔
      ∃ mark digits more, ts = mark :: digits :: more ∧ mark.kind = .worldMark ∧
        (Word.number w.number).Fits digits ∧ Leads ws more rest := by
  simp only [WorldId.words, List.cons_append, List.nil_append, leads_cons]
  constructor
  · intro h
    obtain ⟨mark, _, rfl, hmark, digits, more, rfl, hdigits, hws⟩ := h
    exact ⟨mark, digits, more, rfl, hmark, hdigits, hws⟩
  · intro h
    obtain ⟨mark, digits, more, rfl, hmark, hdigits, hws⟩ := h
    exact ⟨mark, _, rfl, hmark, digits, more, rfl, hdigits, hws⟩

/-- A path takes hops for as long as there are any. -/
theorem hops_eq_ok_iff {ts rest : List Token} {path : List WorldId} :
    hops ts = .ok (path, rest) ↔
      Leads (path.flatMap WorldId.words) ts rest ∧ (next rest).kind ≠ .worldMark := by
  fun_induction hops ts generalizing path with
  | case1 =>
    cases path with
    | nil =>
      constructor
      · intro h
        obtain ⟨_, hrest⟩ := ok_pair_inj h
        subst hrest
        exact ⟨rfl, by decide⟩
      · rintro ⟨hrest, -⟩
        rw [← leads_nil.mp hrest]
    | cons w path => simp [List.flatMap_cons, leads_hop_iff]
  | case2 mark hmark =>
    cases path with
    | nil =>
      simp only [reduceCtorEq, List.flatMap_nil, leads_nil, false_iff, not_and]
      rintro rfl
      exact not_not_intro hmark
    | cons w path => simp [List.flatMap_cons, leads_hop_iff]
  | case3 mark hmark digits more ih =>
    simp only [bind_eq_ok, Prod.exists, number_eq_ok_iff]
    constructor
    · intro h
      obtain ⟨n, _, ⟨t, _, hts, ht, -⟩, path', left, hhops, heq⟩ := h
      obtain ⟨rfl, rfl⟩ := ok_pair_inj heq
      obtain ⟨rfl, -⟩ := List.cons.inj hts
      obtain ⟨hleads, hstop⟩ := ih.mp hhops
      exact ⟨leads_hop_iff.mpr ⟨mark, digits, more, rfl, hmark, ht, hleads⟩, hstop⟩
    · rintro ⟨hleads, hstop⟩
      cases path with
      | nil =>
        rw [← leads_nil.mp hleads] at hstop
        exact absurd hmark hstop
      | cons w path =>
        obtain ⟨_, _, _, hts, -, ht, hpath⟩ := leads_hop_iff.mp hleads
        obtain ⟨rfl, rfl⟩ := List.cons.inj (List.cons.inj hts).2
        exact ⟨w.number, more, ⟨digits, more, rfl, ht, rfl⟩, path, rest,
          ih.mpr ⟨hpath, hstop⟩, rfl⟩
  | case4 mark more hmark =>
    constructor
    · intro h
      obtain ⟨rfl, rfl⟩ := ok_pair_inj h
      exact ⟨rfl, hmark⟩
    · rintro ⟨hleads, -⟩
      cases path with
      | nil => rw [leads_nil.mp hleads]
      | cons w path =>
        obtain ⟨_, _, _, hts, hw, -⟩ := leads_hop_iff.mp hleads
        injection hts with hts
        exact absurd (hts ▸ hw) hmark

/-- The kinds of token that a destination of ships starts with. What may
be fired at starts with one of them, too. -/
def OpensTarget (kind : TokenKind) : Prop :=
  kind = .industry ∨ kind = .population ∨ kind = .fleetMark

instance (kind : TokenKind) : Decidable (OpensTarget kind) :=
  inferInstanceAs (Decidable (_ ∨ _))

theorem destination?_eq_some_iff {ts rest : List Token} {d : Destination} :
    destination? ts = .ok (some d, rest) ↔ Leads d.words ts rest := by
  constructor
  · intro h
    unfold destination? at h
    split at h
    · rename_i hkind
      obtain ⟨hd, rfl⟩ := ok_pair_inj h
      obtain rfl := Option.some.inj hd
      exact leads_sign_of_next hkind
    · rename_i hkind
      obtain ⟨hd, rfl⟩ := ok_pair_inj h
      obtain rfl := Option.some.inj hd
      exact leads_sign_of_next hkind
    · rename_i hkind
      obtain ⟨⟨n, more⟩, hnumber, h⟩ := bind_eq_ok.mp h
      obtain ⟨hd, rfl⟩ := ok_pair_inj h
      obtain rfl := Option.some.inj hd
      exact leads_sign_iff.mpr ⟨hkind, number_eq_ok_iff.mp hnumber⟩
    · obtain ⟨hd, -⟩ := ok_pair_inj h
      cases hd
  · intro h
    cases d with
    | industry =>
      obtain ⟨hkind, rfl⟩ := leads_sign_iff.mp h
      simp [destination?, hkind, Sign.kind]
    | population =>
      obtain ⟨hkind, rfl⟩ := leads_sign_iff.mp h
      simp [destination?, hkind, Sign.kind]
    | fleet id =>
      obtain ⟨hkind, hnumber⟩ := leads_sign_iff.mp h
      simp [destination?, hkind, Sign.kind, number_eq_ok_iff.mpr hnumber, bind, Except.bind]

theorem destination?_eq_none_iff {ts rest : List Token} :
    destination? ts = .ok (none, rest) ↔ ts = rest ∧ ¬ OpensTarget (next ts).kind := by
  unfold destination?
  split
  · rename_i hkind
    simp [hkind, OpensTarget]
  · rename_i hkind
    simp [hkind, OpensTarget]
  · rename_i hkind
    simp [hkind, OpensTarget, bind_eq_ok]
  · rename_i hindustry hpopulation hfleet
    have hopens : ¬ OpensTarget (next ts).kind := by
      rintro (h | h | h)
      · exact hindustry h
      · exact hpopulation h
      · exact hfleet h
    simp [hopens]

/-- The order to fire at what a destination names, and an ambush without
one. -/
def attackOn (fleet : FleetId) : Option Destination → Command
  | some .industry => .fireAtWorld fleet .industry
  | some .population => .fireAtWorld fleet .population
  | some (.fleet target) => .fireAtFleet fleet target
  | none => .ambush fleet

/-- What follows `A` is read as a destination of ships is. -/
theorem attack_eq_destination? (fleet : FleetId) :
    attack fleet = fun ts => (do
      let (goal, rest) ← destination? ts
      .ok (attackOn fleet goal, rest)) := by
  funext ts
  unfold attack destination?
  cases (next ts).kind with
  | fleetMark => cases number ts.tail <;> rfl
  | _ => rfl

/-- What follows `A` names a target, or the order is an ambush and nothing
more is taken. -/
theorem attack_eq_ok_iff {fleet : FleetId} {ts rest : List Token} {c : Command} :
    attack fleet ts = .ok (c, rest) ↔
      (∃ r, c = .fireAtWorld fleet r ∧ Leads r.words ts rest) ∨
        (∃ g, c = .fireAtFleet fleet g ∧ Leads g.words ts rest) ∨
        (c = .ambush fleet ∧ ts = rest ∧ ¬ OpensTarget (next ts).kind) := by
  rw [attack_eq_destination?, bind_eq_ok]
  constructor
  · rintro ⟨⟨goal, left⟩, hgoal, h⟩
    obtain ⟨rfl, rfl⟩ := ok_pair_inj h
    cases goal with
    | none => exact .inr (.inr ⟨rfl, destination?_eq_none_iff.mp hgoal⟩)
    | some d =>
      have htarget := destination?_eq_some_iff.mp hgoal
      cases d with
      | industry => exact .inl ⟨.industry, rfl, htarget⟩
      | population => exact .inl ⟨.population, rfl, htarget⟩
      | fleet g => exact .inr (.inl ⟨g, rfl, htarget⟩)
  · rintro (⟨r, rfl, htarget⟩ | ⟨g, rfl, htarget⟩ | ⟨rfl, hrest⟩)
    · cases r with
      | industry => exact ⟨(some .industry, rest), destination?_eq_some_iff.mpr htarget, rfl⟩
      | population => exact ⟨(some .population, rest), destination?_eq_some_iff.mpr htarget, rfl⟩
    · exact ⟨(some (.fleet g), rest), destination?_eq_some_iff.mpr htarget, rfl⟩
    · exact ⟨(none, rest), destination?_eq_none_iff.mpr hrest, rfl⟩

/-- Behind an amount a destination is read, which makes the order whole; or
none is, which leaves its beginning. -/
theorem exists_goal_iff {whole : Destination → Command} {part : Command} {ts rest : List Token}
    {c : Command} :
    (∃ goal left, destination? ts = .ok (goal, left) ∧
      (match goal with
        | some d => .ok (whole d, left)
        | none => .ok (part, left) : Except SyntaxError (Command × List Token)) = .ok (c, rest)) ↔
      (∃ d, c = whole d ∧ Leads d.words ts rest) ∨
        (c = part ∧ ts = rest ∧ ¬ OpensTarget (next ts).kind) := by
  constructor
  · rintro ⟨goal, left, hgoal, h⟩
    cases goal with
    | some d =>
      obtain ⟨rfl, rfl⟩ := ok_pair_inj h
      exact .inl ⟨d, rfl, destination?_eq_some_iff.mp hgoal⟩
    | none =>
      obtain ⟨rfl, rfl⟩ := ok_pair_inj h
      exact .inr ⟨rfl, destination?_eq_none_iff.mp hgoal⟩
  · rintro (⟨d, rfl, hgoal⟩ | ⟨rfl, hgoal⟩)
    · exact ⟨some d, rest, destination?_eq_some_iff.mpr hgoal, rfl⟩
    · exact ⟨none, rest, destination?_eq_none_iff.mpr hgoal, rfl⟩

/-- What follows `T` is an amount, and then a destination or the end of a
transfer without one. -/
theorem transfer_eq_ok_iff {fleet : FleetId} {ts rest : List Token} {c : Command} :
    transfer fleet ts = .ok (c, rest) ↔
      ∃ n mid, Leads [.number n] ts mid ∧
        ((∃ d, c = .transfer fleet n d ∧ Leads d.words mid rest) ∨
          (c = .partialTransfer fleet n ∧ mid = rest ∧ ¬ OpensTarget (next mid).kind)) := by
  simp only [transfer, bind_eq_ok, Prod.exists, number_eq_ok_iff]
  exact exists_congr fun n => exists_congr fun mid => and_congr_right fun _ => exists_goal_iff

/-! ## Orders -/

theorem leads_mark_number_iff {s : Sign} {n : UInt32} {ts rest : List Token} :
    Leads [.sign s, .number n] ts rest ↔
      ∃ mid, (∃ t, one s.kind ts = .ok (t, mid)) ∧ number mid = .ok (n, rest) := by
  rw [show ([.sign s, .number n] : List Word) = [.sign s] ++ [.number n] from rfl, leads_append]
  simp only [one_sign_iff, number_eq_ok_iff]

/-- `JOIN` goes on with a free text or with nothing. -/
theorem joinOrder_eq_iff {ts rest : List Token} {c : Command} :
    joinOrder ts = (c, rest) ↔
      (∃ text, c = .join text ∧ Leads [.free text] ts rest) ∨
        (c = .partialJoin ∧ ts = rest ∧ (next ts).kind ≠ .joinText) := by
  unfold joinOrder
  split
  · rename_i hkind
    cases ts with
    | nil => cases hkind
    | cons t ts =>
      constructor
      · intro h
        injection h with hc hrest
        exact .inl ⟨t.text, hc.symm, t, ts, rfl, ⟨hkind, rfl⟩, hrest⟩
      · intro h
        rcases h with ⟨text, rfl, _, _, hts, ⟨-, rfl⟩, rfl⟩ | ⟨-, -, hno⟩
        · injection hts with ht hrest
          rw [← ht, ← hrest]
          rfl
        · exact absurd hkind hno
  · rename_i hkind
    constructor
    · intro h
      injection h with hc hrest
      exact .inr ⟨hc.symm, hrest, hkind⟩
    · intro h
      rcases h with ⟨text, rfl, htext⟩ | ⟨rfl, rfl, -⟩
      · exact absurd (next_of_leads htext).1 hkind
      · rfl

/-- An order to a fleet goes on after the number with nothing, a path, a
transfer or an attack. -/
theorem fleetOrder_eq_ok_iff {ts rest : List Token} {c : Command} :
    fleetOrder ts = .ok (c, rest) ↔
      ∃ f mid, Leads (FleetId.words f) ts mid ∧
        ((c = .partialFleet f ∧ mid = rest ∧ (next mid).kind = .endOfInput) ∨
          (∃ path, c = .move f path ∧ path ≠ [] ∧ Leads (path.flatMap WorldId.words) mid rest ∧
            (next rest).kind ≠ .worldMark) ∨
          ((next mid).kind = .transfer ∧ transfer f mid.tail = .ok (c, rest)) ∨
          ((next mid).kind = .attack ∧ attack f mid.tail = .ok (c, rest))) := by
  simp only [fleetOrder, bind_eq_ok, Prod.exists, FleetId.words, leads_mark_number_iff]
  constructor
  · intro h
    obtain ⟨t, more, hmark, n, mid, hnumber, h⟩ := h
    refine ⟨⟨n⟩, mid, ⟨more, ⟨t, hmark⟩, hnumber⟩, ?_⟩
    split at h
    · rename_i hkind
      obtain ⟨hc, hrest⟩ := ok_pair_inj h
      exact .inl ⟨hc.symm, hrest, hkind⟩
    · rename_i hkind
      obtain ⟨⟨path, after⟩, hhops, h⟩ := bind_eq_ok.mp h
      obtain ⟨rfl, rfl⟩ := ok_pair_inj h
      obtain ⟨hpath, hstop⟩ := hops_eq_ok_iff.mp hhops
      refine .inr (.inl ⟨path, rfl, ?_, hpath, hstop⟩)
      rintro rfl
      exact hstop (leads_nil.mp hpath ▸ hkind)
    · rename_i hkind
      exact .inr (.inr (.inl ⟨hkind, h⟩))
    · rename_i hkind
      exact .inr (.inr (.inr ⟨hkind, h⟩))
    · cases h
  · intro h
    obtain ⟨f, mid, ⟨more, ⟨t, hmark⟩, hnumber⟩, h⟩ := h
    refine ⟨t, more, hmark, f.number, mid, hnumber, ?_⟩
    rcases h with ⟨rfl, rfl, hkind⟩ | ⟨path, rfl, hne, hpath, hstop⟩ | ⟨hkind, h⟩ | ⟨hkind, h⟩
    · simp [hkind]
    · obtain ⟨w, path, rfl⟩ := List.exists_cons_of_ne_nil hne
      have hkind : (next mid).kind = .worldMark := (leads_sign_iff.mp hpath).1
      have hhops := hops_eq_ok_iff.mpr ⟨hpath, hstop⟩
      simp [hkind, hhops, bind, Except.bind]
    · simpa [hkind] using h
    · simpa [hkind] using h

/-- An order to a world goes on after the number with nothing or a
build. -/
theorem worldOrder_eq_ok_iff {ts rest : List Token} {c : Command} :
    worldOrder ts = .ok (c, rest) ↔
      ∃ w mid, Leads (WorldId.words w) ts mid ∧
        ((c = .partialWorld w ∧ mid = rest ∧ (next mid).kind = .endOfInput) ∨
          (∃ n after, Leads [.sign .build, .number n] mid after ∧
            ((∃ d, c = .build w n d ∧ Leads d.words after rest) ∨
              (c = .partialBuild w n ∧ after = rest ∧ ¬ OpensTarget (next after).kind)))) := by
  simp only [worldOrder, bind_eq_ok, Prod.exists, WorldId.words, leads_mark_number_iff]
  constructor
  · intro h
    obtain ⟨t, more, hmark, n, mid, hnumber, h⟩ := h
    refine ⟨⟨n⟩, mid, ⟨more, ⟨t, hmark⟩, hnumber⟩, ?_⟩
    split at h
    · rename_i hend
      obtain ⟨hc, hrest⟩ := ok_pair_inj h
      exact .inl ⟨hc.symm, hrest, by simpa [Token.isEnd] using hend⟩
    · simp only [bind_eq_ok, Prod.exists] at h
      obtain ⟨t, more, hbuild, amount, after, hamount, h⟩ := h
      exact .inr ⟨amount, after, ⟨more, ⟨t, hbuild⟩, hamount⟩, exists_goal_iff.mp h⟩
  · intro h
    obtain ⟨w, mid, ⟨more, ⟨t, hmark⟩, hnumber⟩, h⟩ := h
    refine ⟨t, more, hmark, w.number, mid, hnumber, ?_⟩
    rcases h with ⟨rfl, rfl, hkind⟩ | ⟨n, after, ⟨more, ⟨t, hbuild⟩, hamount⟩, h⟩
    · simp [Token.isEnd, hkind]
    · have hkind : (next mid).kind = .build :=
        (next_of_leads (one_sign_iff.mp ⟨t, hbuild⟩)).1
      have hend : (next mid).isEnd = false := by simp [Token.isEnd, hkind]
      rw [if_neg (by simp [hend])]
      simp only [bind_eq_ok, Prod.exists]
      exact ⟨t, more, hbuild, n, after, hamount, exists_goal_iff.mpr h⟩

/-- Marking what was read as an order changes nothing about it. -/
theorem some_bind_eq_ok_iff {x : Except SyntaxError (Command × List Token)} {c : Command}
    {rest : List Token} :
    (do let (d, more) ← x; .ok (some d, more)) = .ok (some c, rest) ↔ x = .ok (c, rest) := by
  simp only [bind_eq_ok, Prod.exists]
  constructor
  · rintro ⟨d, more, h, heq⟩
    obtain ⟨hc, rfl⟩ := ok_pair_inj heq
    rw [h, Option.some.inj hc]
  · intro h
    exact ⟨c, rest, h, rfl⟩

theorem order_eq_fleetOrder {ts rest : List Token} {c : Command}
    (hkind : (next ts).kind = .fleetMark) :
    order ts = .ok (some c, rest) ↔ fleetOrder ts = .ok (c, rest) := by
  simp only [order, hkind]
  exact some_bind_eq_ok_iff

theorem order_eq_worldOrder {ts rest : List Token} {c : Command}
    (hkind : (next ts).kind = .worldMark) :
    order ts = .ok (some c, rest) ↔ worldOrder ts = .ok (c, rest) := by
  simp only [order, hkind]
  exact some_bind_eq_ok_iff

end Reading

/-- What the token after a command may be. A path has a hop and takes all
that follow; an order that could go on with a target stops only where none
starts; a bare fleet or world stops only at the end of the line. -/
def Command.StopsBefore : Command → TokenKind → Prop
  | .move _ path, kind => path ≠ [] ∧ kind ≠ .worldMark
  | .ambush _, kind | .partialTransfer .., kind | .partialBuild .., kind =>
    ¬ Reading.OpensTarget kind
  | .partialFleet _, kind | .partialWorld _, kind => kind = .endOfInput
  | .partialJoin, kind => kind ≠ .joinText
  | _, _ => True

namespace Reading

theorem leads_of_fleetOrder {ts rest : List Token} {c : Command}
    (h : fleetOrder ts = .ok (c, rest)) :
    Leads c.words ts rest ∧ c.StopsBefore (next rest).kind := by
  obtain ⟨f, mid, hf, h⟩ := fleetOrder_eq_ok_iff.mp h
  rcases h with ⟨rfl, rfl, hend⟩ | ⟨path, rfl, hne, hpath, hstop⟩ | ⟨hkind, h⟩ | ⟨hkind, h⟩
  · exact ⟨hf, hend⟩
  · exact ⟨leads_append.mpr ⟨mid, hf, hpath⟩, hne, hstop⟩
  · obtain ⟨n, after, hn, h⟩ := transfer_eq_ok_iff.mp h
    have hamount : Leads [.sign .transfer, .number n] mid after :=
      leads_sign_iff.mpr ⟨hkind, hn⟩
    have hhead := leads_append.mpr ⟨mid, hf, hamount⟩
    rcases h with ⟨d, rfl, hgoal⟩ | ⟨rfl, rfl, hopens⟩
    · exact ⟨leads_append.mpr ⟨after, hhead, hgoal⟩, trivial⟩
    · exact ⟨hhead, hopens⟩
  · have hattack : Leads [.sign .attack] mid mid.tail := leads_sign_of_next hkind
    have hhead := leads_append.mpr ⟨mid, hf, hattack⟩
    rcases attack_eq_ok_iff.mp h with ⟨r, rfl, htarget⟩ | ⟨g, rfl, htarget⟩ | ⟨rfl, rfl, hopens⟩
    · exact ⟨leads_append.mpr ⟨_, hhead, htarget⟩, trivial⟩
    · exact ⟨leads_append.mpr ⟨_, hhead, htarget⟩, trivial⟩
    · exact ⟨hhead, hopens⟩

theorem leads_of_worldOrder {ts rest : List Token} {c : Command}
    (h : worldOrder ts = .ok (c, rest)) :
    Leads c.words ts rest ∧ c.StopsBefore (next rest).kind := by
  obtain ⟨w, mid, hw, h⟩ := worldOrder_eq_ok_iff.mp h
  rcases h with ⟨rfl, rfl, hend⟩ | ⟨n, after, hn, h⟩
  · exact ⟨hw, hend⟩
  · have hhead := leads_append.mpr ⟨mid, hw, hn⟩
    rcases h with ⟨d, rfl, hgoal⟩ | ⟨rfl, rfl, hopens⟩
    · exact ⟨leads_append.mpr ⟨after, hhead, hgoal⟩, trivial⟩
    · exact ⟨hhead, hopens⟩

/-- Every order to a fleet is read back from its words. -/
theorem fleetOrder_of_leads {ts rest : List Token} {c : Command}
    (hfleet : c.actingFleet?.isSome = true) (hleads : Leads c.words ts rest)
    (hstop : c.StopsBefore (next rest).kind) :
    (next ts).kind = .fleetMark ∧ fleetOrder ts = .ok (c, rest) := by
  have hmark : ∀ {f : FleetId} {mid : List Token}, Leads f.words ts mid →
      (next ts).kind = .fleetMark := fun hf => (leads_sign_iff.mp hf).1
  cases c with
  | move f path =>
    obtain ⟨mid, hf, hpath⟩ := leads_append.mp hleads
    refine ⟨hmark hf, fleetOrder_eq_ok_iff.mpr ⟨f, mid, hf, .inr (.inl ?_)⟩⟩
    exact ⟨path, rfl, hstop.1, hpath, hstop.2⟩
  | transfer f n d =>
    obtain ⟨after, hhead, hgoal⟩ := leads_append.mp hleads
    obtain ⟨mid, hf, hamount⟩ := leads_append.mp hhead
    obtain ⟨hkind, hn⟩ := leads_sign_iff.mp hamount
    refine ⟨hmark hf, fleetOrder_eq_ok_iff.mpr ⟨f, mid, hf, .inr (.inr (.inl ⟨hkind, ?_⟩))⟩⟩
    exact transfer_eq_ok_iff.mpr ⟨n, after, hn, .inl ⟨d, rfl, hgoal⟩⟩
  | partialTransfer f n =>
    obtain ⟨mid, hf, hamount⟩ := leads_append.mp hleads
    obtain ⟨hkind, hn⟩ := leads_sign_iff.mp hamount
    refine ⟨hmark hf, fleetOrder_eq_ok_iff.mpr ⟨f, mid, hf, .inr (.inr (.inl ⟨hkind, ?_⟩))⟩⟩
    exact transfer_eq_ok_iff.mpr ⟨n, rest, hn, .inr ⟨rfl, rfl, hstop⟩⟩
  | fireAtWorld f r =>
    obtain ⟨after, hhead, htarget⟩ := leads_append.mp hleads
    obtain ⟨mid, hf, hattack⟩ := leads_append.mp hhead
    obtain ⟨hkind, rfl⟩ := leads_sign_iff.mp hattack
    refine ⟨hmark hf, fleetOrder_eq_ok_iff.mpr ⟨f, mid, hf, .inr (.inr (.inr ⟨hkind, ?_⟩))⟩⟩
    exact attack_eq_ok_iff.mpr (.inl ⟨r, rfl, htarget⟩)
  | fireAtFleet f g =>
    obtain ⟨after, hhead, htarget⟩ := leads_append.mp hleads
    obtain ⟨mid, hf, hattack⟩ := leads_append.mp hhead
    obtain ⟨hkind, rfl⟩ := leads_sign_iff.mp hattack
    refine ⟨hmark hf, fleetOrder_eq_ok_iff.mpr ⟨f, mid, hf, .inr (.inr (.inr ⟨hkind, ?_⟩))⟩⟩
    exact attack_eq_ok_iff.mpr (.inr (.inl ⟨g, rfl, htarget⟩))
  | ambush f =>
    obtain ⟨mid, hf, hattack⟩ := leads_append.mp hleads
    obtain ⟨hkind, hrest⟩ := leads_sign_iff.mp hattack
    refine ⟨hmark hf, fleetOrder_eq_ok_iff.mpr ⟨f, mid, hf, .inr (.inr (.inr ⟨hkind, ?_⟩))⟩⟩
    exact attack_eq_ok_iff.mpr (.inr (.inr ⟨rfl, hrest, hrest ▸ hstop⟩))
  | partialFleet f =>
    exact ⟨hmark hleads, fleetOrder_eq_ok_iff.mpr ⟨f, rest, hleads, .inl ⟨rfl, rfl, hstop⟩⟩⟩
  | build | join | turn | partialWorld | partialBuild | partialJoin => cases hfleet

/-- The order that the tokens start with, read off them exactly: its words
lead the tokens, and the next token is one that it stops before. -/
theorem order_eq_ok_iff {ts rest : List Token} {c : Command} :
    order ts = .ok (some c, rest) ↔ Leads c.words ts rest ∧ c.StopsBefore (next rest).kind := by
  constructor
  · intro h
    unfold order at h
    split at h
    · obtain ⟨h, -⟩ := ok_pair_inj h
      cases h
    · exact leads_of_fleetOrder (some_bind_eq_ok_iff.mp h)
    · exact leads_of_worldOrder (some_bind_eq_ok_iff.mp h)
    · rename_i hkind
      obtain ⟨hc, hrest⟩ := ok_pair_inj h
      injection hc with hc
      rcases joinOrder_eq_iff.mp (Prod.ext hc hrest) with ⟨text, rfl, htext⟩ | ⟨rfl, rfl, hstop⟩
      · exact ⟨leads_sign_iff.mpr ⟨hkind, htext⟩, trivial⟩
      · exact ⟨leads_sign_of_next hkind, hstop⟩
    · rename_i hkind
      obtain ⟨hc, rfl⟩ := ok_pair_inj h
      obtain rfl := Option.some.inj hc
      exact ⟨leads_sign_of_next hkind, trivial⟩
    · cases h
  · rintro ⟨hleads, hstop⟩
    cases c with
    | build w n d =>
      obtain ⟨after, hhead, hgoal⟩ := leads_append.mp hleads
      obtain ⟨mid, hw, hn⟩ := leads_append.mp hhead
      refine (order_eq_worldOrder (leads_sign_iff.mp hw).1).mpr (worldOrder_eq_ok_iff.mpr ?_)
      exact ⟨w, mid, hw, .inr ⟨n, after, hn, .inl ⟨d, rfl, hgoal⟩⟩⟩
    | partialWorld w =>
      refine (order_eq_worldOrder (leads_sign_iff.mp hleads).1).mpr (worldOrder_eq_ok_iff.mpr ?_)
      exact ⟨w, rest, hleads, .inl ⟨rfl, rfl, hstop⟩⟩
    | partialBuild w n =>
      obtain ⟨mid, hw, hn⟩ := leads_append.mp hleads
      refine (order_eq_worldOrder (leads_sign_iff.mp hw).1).mpr (worldOrder_eq_ok_iff.mpr ?_)
      exact ⟨w, mid, hw, .inr ⟨n, rest, hn, .inr ⟨rfl, rfl, hstop⟩⟩⟩
    | join text =>
      obtain ⟨hkind, htext⟩ := leads_sign_iff.mp hleads
      have hjoin := joinOrder_eq_iff.mpr (.inl ⟨text, rfl, htext⟩)
      simp only [order, hkind, Sign.kind, hjoin]
    | partialJoin =>
      obtain ⟨hkind, hrest⟩ := leads_sign_iff.mp hleads
      have hjoin := joinOrder_eq_iff.mpr (.inr ⟨rfl, hrest, hrest ▸ hstop⟩)
      simp only [order, hkind, Sign.kind, hjoin]
    | turn =>
      obtain ⟨hkind, hrest⟩ := leads_sign_iff.mp hleads
      simp only [order, hkind, Sign.kind, leads_nil.mp hrest]
    | _ =>
      obtain ⟨hkind, hfleet⟩ := fleetOrder_of_leads rfl hleads hstop
      exact (order_eq_fleetOrder hkind).mpr hfleet

/-- Nothing is read, and without error, only where no token is left. -/
theorem order_eq_none_iff {ts rest : List Token} :
    order ts = .ok (none, rest) ↔ (next ts).kind = .endOfInput ∧ ts = rest := by
  unfold order
  split
  · rename_i hkind
    simp [hkind]
  · rename_i hkind
    simp [hkind, bind_eq_ok]
  · rename_i hkind
    simp [hkind, bind_eq_ok]
  · rename_i hkind
    simp [hkind]
  · rename_i hkind
    simp [hkind]
  · rename_i hend _ _ _ _
    constructor
    · intro h
      cases h
    · rintro ⟨h, -⟩
      exact absurd h hend

end Reading

end FleetOrders
