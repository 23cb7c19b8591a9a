/-
FleetOrders.Proofs.QueuedOrders — the orders that are queued already add one
warning to a verdict and change nothing else of it.

Of the queue a judgement asks one thing: which exclusive order the fleet holds.
It asks in the middle of four judgements, each with findings before and behind
it, and the answer goes to the warnings.

* `QueuedOrder.Binds`, `FirstBinding` — the orders that the question is about,
  and the one that answers it (`Snapshot.exclusiveOrder?_eq_some_iff`).
* `Snapshot.idle` — the snapshot before any order was given.
* `Snapshot.findings_eq_notice` — a judgement is the one before any order was
  given, with the `Snapshot.notice` of the queued orders in front.
* `Snapshot.Replaces` — when a verdict warns of a queued order, and of which.
* `queued_orders_add_one_warning` — all of it, about verdicts.
-/
import FleetOrders.Proofs.Locality
import FleetOrders.Proofs.MissingWorlds

namespace FleetOrders

/-! ## The orders that a new one replaces -/

/-- The order is the fleet's, and it is to move, to fire or to lie in ambush. -/
def QueuedOrder.Binds (o : QueuedOrder) (fleet : FleetId) : Prop :=
  o.fleet = fleet ∧ (o.kind = .move ∨ o.kind = .fire ∨ o.kind = .ambush)

instance (o : QueuedOrder) (fleet : FleetId) : Decidable (o.Binds fleet) :=
  inferInstanceAs (Decidable (_ ∧ _))

theorem QueuedOrder.binds_iff {o : QueuedOrder} {fleet : FleetId} :
    o.Binds fleet ↔ o.fleet = fleet ∧ o.kind.isExclusive = true := by
  refine and_congr_right fun _ => ?_
  cases o.kind <;> decide

/-- The first order in a queue that binds the fleet is of this kind. -/
def FirstBinding (orders : List QueuedOrder) (fleet : FleetId) (kind : OrderKind) : Prop :=
  ∃ before o after, orders = before ++ o :: after ∧ o.Binds fleet ∧ o.kind = kind ∧
    ∀ p ∈ before, ¬ p.Binds fleet

/-- An order that comes later is not the first. -/
theorem FirstBinding.append {orders : List QueuedOrder} {fleet : FleetId} {kind : OrderKind}
    (h : FirstBinding orders fleet kind) (later : List QueuedOrder) :
    FirstBinding (orders ++ later) fleet kind := by
  obtain ⟨before, o, after, rfl, ho, hkind, hbefore⟩ := h
  exact ⟨before, o, after ++ later, by simp, ho, hkind, hbefore⟩

/-- The fleet of an order that is exclusive itself. -/
def Command.exclusiveFleet? : Command → Option FleetId
  | .move fleet _ | .fireAtWorld fleet _ | .fireAtFleet fleet _ | .ambush fleet => some fleet
  | _ => none

namespace Snapshot

variable {s : Snapshot} {fleet : FleetId} {kind : OrderKind}

/-- The question skips the orders of other fleets and those that are not
exclusive, in one go. -/
theorem exclusiveOrder?_eq_find? :
    s.exclusiveOrder? fleet =
      (s.orders.find? fun o => decide (o.Binds fleet)).map QueuedOrder.kind := by
  rw [exclusiveOrder?, ordersFor, List.find?_map, List.find?_filter]
  congr 2
  funext o
  rw [decide_eq_decide, QueuedOrder.binds_iff, beq_iff_eq]
  rfl

theorem exclusiveOrder?_eq_some_iff :
    s.exclusiveOrder? fleet = some kind ↔ FirstBinding s.orders fleet kind := by
  rw [exclusiveOrder?_eq_find?, Option.map_eq_some_iff]
  simp only [List.find?_eq_some_iff_append, decide_eq_true_eq, Bool.not_eq_true',
    decide_eq_false_iff_not]
  constructor
  · rintro ⟨o, ⟨ho, before, after, horders, hbefore⟩, hkind⟩
    exact ⟨before, o, after, horders, ho, hkind, hbefore⟩
  · rintro ⟨before, o, after, horders, ho, hkind, hbefore⟩
    exact ⟨o, ⟨ho, before, after, horders, hbefore⟩, hkind⟩

theorem exists_firstBinding_iff :
    (∃ kind, FirstBinding s.orders fleet kind) ↔ ∃ o ∈ s.orders, o.Binds fleet := by
  simp only [← exclusiveOrder?_eq_some_iff, exclusiveOrder?_eq_find?,
    ← Option.isSome_iff_exists, Option.isSome_map, List.find?_isSome, decide_eq_true_eq]

/-! ## What queued orders add to a judgement -/

/-- The snapshot before any order was given. -/
def idle (s : Snapshot) : Snapshot :=
  { s with orders := [] }

/-- What the queued orders add to what is found about a command. -/
def notice (s : Snapshot) (c : Command) : Findings :=
  match c.exclusiveFleet? with
  | some fleet => .given (s.ownFleet fleet).isOk (s.replacement fleet)
  | none => .none

end Snapshot

namespace Findings

theorem append_none (a : Findings) : a ++ none = a := by
  show Findings.mk _ _ _ = a
  simp [none]

theorem append_assoc (a b c : Findings) : a ++ b ++ c = a ++ (b ++ c) := by
  show Findings.mk _ _ _ = Findings.mk _ _ _
  simp

end Findings

namespace Snapshot

variable {s : Snapshot} {fleet : FleetId} {kind : OrderKind} {c : Command} {mode : Mode}

/-- Whether there are ships is an objection and whether there is an order is a
caution, so their order does not matter. -/
theorem needsShips_append_replacement (f : Fleet) :
    needsShips f ++ s.replacement fleet = s.replacement fleet ++ needsShips f := by
  unfold needsShips replacement Findings.given
  split <;> split <;> rfl

theorem replacement_idle : s.idle.replacement fleet = .none := rfl

theorem map_none_append (judgement : Except Fault Findings) :
    judgement.map (Findings.none ++ ·) = judgement := by
  cases judgement <;> rfl

theorem map_append_map (before after : Findings) (judgement : Except Fault Findings) :
    (judgement.map (after ++ ·)).map (before ++ ·) = judgement.map (before ++ after ++ ·) := by
  cases judgement with
  | error fault => rfl
  | ok found => exact congrArg Except.ok (Findings.append_assoc before after found).symm

/-- Whose fleet it is does not depend on the queue. -/
theorem withOwnFleet_eq_idle {check before : Fleet → Except Fault Findings}
    (hcheck : ∀ f, check f = (before f).map (s.replacement fleet ++ ·)) :
    s.withOwnFleet fleet check = (s.idle.withOwnFleet fleet before).map
      (Findings.given (s.ownFleet fleet).isOk (s.replacement fleet) ++ ·) := by
  have hown : s.idle.ownFleet fleet = s.ownFleet fleet := rfl
  rw [withOwnFleet, withOwnFleet, hown]
  cases s.ownFleet fleet with
  | ok f => exact hcheck f
  | error e => rfl

theorem moveFindings_eq_idle (path : List WorldId) :
    s.moveFindings fleet path =
      (s.idle.moveFindings fleet path).map (s.notice (.move fleet path) ++ ·) := by
  refine withOwnFleet_eq_idle fun f => ?_
  rw [replacement_idle, Findings.append_none, needsShips_append_replacement]
  cases f.station with
  | none => exact congrArg Except.ok (Findings.append_assoc ..)
  | some start =>
    have hpath : s.pathFindings start path = s.idle.pathFindings start path :=
      pathFindings_congr fun _ _ => rfl
    rw [map_append_map, ← hpath]

theorem fireAtWorldFindings_eq_idle (target : Resource) :
    s.fireAtWorldFindings fleet target =
      (s.idle.fireAtWorldFindings fleet target).map
        (s.notice (.fireAtWorld fleet target) ++ ·) := by
  refine withOwnFleet_eq_idle fun f => ?_
  rw [replacement_idle, Findings.append_none, needsShips_append_replacement]
  have hworld : s.idle.world? = s.world? := rfl
  cases f.station with
  | none => exact congrArg Except.ok (Findings.append_assoc ..)
  | some here =>
    rw [hworld]
    cases hhere : s.world? here with
    | none =>
      simp only [hhere]
      rfl
    | some w =>
      simp only [hhere, Findings.append_assoc]
      rfl

theorem fireAtFleetFindings_eq_idle (target : FleetId) :
    s.fireAtFleetFindings fleet target =
      (s.idle.fireAtFleetFindings fleet target).map
        (s.notice (.fireAtFleet fleet target) ++ ·) := by
  refine withOwnFleet_eq_idle fun f => ?_
  rw [replacement_idle, Findings.append_none, needsShips_append_replacement]
  have hfleet : s.idle.fleet? = s.fleet? := rfl
  by_cases hself : target = fleet
  · simp only [hself, if_true, Findings.append_assoc]
    rfl
  · rw [hfleet]
    cases s.fleet? target with
    | none =>
      simp only [hself, if_false, Findings.append_assoc]
      rfl
    | some victim =>
      simp only [hself, if_false, Findings.append_assoc]
      rfl

theorem ambushFindings_eq_idle :
    s.ambushFindings fleet =
      (s.idle.ambushFindings fleet).map (s.notice (.ambush fleet) ++ ·) :=
  withOwnFleet_eq_idle fun _ => rfl

/-- Whatever is queued, a command is judged as before any order was given, with
the notice of the queued orders in front. -/
theorem findings_eq_notice (s : Snapshot) (mode : Mode) (c : Command) :
    s.findings mode c = (s.idle.findings mode c).map (s.notice c ++ ·) := by
  cases c with
  | move fleet path => exact moveFindings_eq_idle path
  | fireAtWorld fleet target => exact fireAtWorldFindings_eq_idle target
  | fireAtFleet fleet target => exact fireAtFleetFindings_eq_idle target
  | ambush fleet => exact ambushFindings_eq_idle
  | transfer | build | join | turn => exact (map_none_append _).symm
  | partialFleet | partialWorld | partialTransfer | partialBuild | partialJoin =>
    exact (map_none_append _).symm

/-! ## What the notice is -/

/-- The command is exclusive, its fleet is the player's, and the first exclusive
order that the fleet holds is of this kind. -/
structure Bound (s : Snapshot) (c : Command) (fleet : FleetId) (kind : OrderKind) : Prop where
  given : c.exclusiveFleet? = some fleet
  owned : ∃ f, s.OwnFleet fleet f
  first : FirstBinding s.orders fleet kind

theorem notice_of_bound (h : s.Bound c fleet kind) :
    s.notice c = .ofCaution (.replaces fleet kind) := by
  obtain ⟨f, hf⟩ := h.owned
  have hown : (s.ownFleet fleet).isOk = true := by
    rw [ownFleet_eq_ok_iff.mpr hf]
    rfl
  simp only [notice, h.given, hown, replacement, exclusiveOrder?_eq_some_iff.mpr h.first]
  rfl

theorem notice_of_not_bound (h : ∀ fleet kind, ¬ s.Bound c fleet kind) : s.notice c = .none := by
  unfold notice replacement
  split
  · rename_i fleet hgiven
    cases hown : s.ownFleet fleet with
    | error e => rfl
    | ok f =>
      split
      · rename_i kind horder
        exact absurd ⟨hgiven, ⟨f, ownFleet_eq_ok_iff.mp hown⟩,
          exclusiveOrder?_eq_some_iff.mp horder⟩ (h fleet kind)
      · rfl
  · rfl

end Snapshot

/-! ## The wording of the warning -/

/-- The text is the warning that an exclusive order will be replaced. -/
def IsReplacement (warning : String) : Prop :=
  ∃ fleet kind, warning = (Caution.replaces fleet kind).message

theorem IsReplacement.isPrefix {warning : String} (h : IsReplacement warning) :
    "Fleet ".toList <+: warning.toList := by
  obtain ⟨fleet, kind, rfl⟩ := h
  exact Text.isPrefix_append (Text.isPrefix_append
    (Text.isPrefix_append (Text.isPrefix_append List.prefix_rfl _) _) _) _

/-- No other caution is worded like it. -/
theorem Caution.exists_replaces_of_isReplacement {w : Caution} (h : IsReplacement w.message) :
    ∃ fleet kind, w = .replaces fleet kind := by
  have hother : ∀ first : String, _ → ¬ first.toList <+: w.message.toList :=
    fun first => Text.not_isPrefix_of_isPrefix h.isPrefix
  have hwords : ∀ first rest : String, first.toList <+: (first ++ rest).toList :=
    fun first => Text.isPrefix_append List.prefix_rfl
  cases w with
  | replaces fleet kind => exact ⟨fleet, kind, rfl⟩
  | nothingToHit world resource =>
    exact absurd (Text.isPrefix_append (Text.isPrefix_append
      (Text.isPrefix_append (hwords _ _) _) _) _) (hother "World " (by decide))
  | ownWorld world => exact absurd (hwords _ _) (hother "Firing at your own world " (by decide))
  | ownFleet fleet => exact absurd (hwords _ _) (hother "Attacking your own fleet " (by decide))
  | unknownCharacter text =>
    exact absurd (Text.isPrefix_append (Text.isPrefix_append
      (Text.isPrefix_append (hwords _ _) _) _) _)
      (hother "No known character type in \"" (by decide))

/-! ## Verdicts -/

namespace Snapshot

variable {s : Snapshot} {fleet : FleetId} {kind : OrderKind} {c : Command} {mode : Mode}

/-- An order is replaced by the command: it binds the fleet, and judging the
command does not run into a fault. -/
structure Replaces (s : Snapshot) (mode : Mode) (c : Command) (fleet : FleetId)
    (kind : OrderKind) : Prop where
  bound : s.Bound c fleet kind
  unfolded : ∀ error ∈ (assess s mode (some c)).errors, ¬ Folded error

theorem exists_replaces_iff :
    (∃ fleet kind, s.Replaces mode c fleet kind) ↔
      ∃ fleet, c.exclusiveFleet? = some fleet ∧ (∃ f, s.OwnFleet fleet f) ∧
        (∀ error ∈ (assess s mode (some c)).errors, ¬ Folded error) ∧
        ∃ o ∈ s.orders, o.Binds fleet := by
  refine exists_congr fun fleet => ?_
  rw [← exists_firstBinding_iff]
  exact ⟨fun ⟨kind, h⟩ => ⟨h.bound.given, h.bound.owned, h.unfolded, kind, h.bound.first⟩,
    fun ⟨hgiven, howned, hunfolded, kind, hfirst⟩ => ⟨kind, ⟨hgiven, howned, hfirst⟩, hunfolded⟩⟩

theorem not_isReplacement_idle :
    ∀ warning ∈ (assess s.idle mode (some c)).warnings, ¬ IsReplacement warning := by
  intro warning hmem hreplaces
  rw [assess] at hmem
  cases hjudged : s.idle.findings mode c with
  | error fault =>
    rw [hjudged] at hmem
    cases hmem
  | ok found =>
    rw [hjudged] at hmem
    obtain ⟨w, hw, rfl⟩ := List.mem_map.mp hmem
    obtain ⟨fleet, kind, rfl⟩ := Caution.exists_replaces_of_isReplacement hreplaces
    -- the caution would be true of a snapshot in which nothing is queued
    have hheld : s.idle.exclusiveOrder? fleet = some kind :=
      (faithful_of_findings hjudged).cautions _ hw
    cases hheld

/-- The verdict warns of the order that is replaced, before anything else, and
is otherwise the one before any order was given. -/
theorem assess_of_replaces (h : s.Replaces mode c fleet kind) :
    assess s mode (some c) =
      { assess s.idle mode (some c) with
        warnings := (Caution.replaces fleet kind).message ::
          (assess s.idle mode (some c)).warnings } := by
  have hfindings := s.findings_eq_notice mode c
  cases hjudged : s.idle.findings mode c with
  | error fault =>
    rw [hjudged] at hfindings
    have hfolded := h.unfolded
    rw [assess_of_error hfindings] at hfolded
    exact absurd (folded_fault fault) (hfolded _ (List.mem_singleton_self _))
  | ok found =>
    rw [hjudged, notice_of_bound h.bound] at hfindings
    rw [assess, assess, hfindings, hjudged]
    rfl

theorem assess_of_not_replaces (h : ∀ fleet kind, ¬ s.Replaces mode c fleet kind) :
    assess s mode (some c) = assess s.idle mode (some c) := by
  have hfindings := s.findings_eq_notice mode c
  cases hjudged : s.idle.findings mode c with
  | error fault =>
    rw [hjudged] at hfindings
    rw [assess_of_error hjudged]
    exact assess_of_error hfindings
  | ok found =>
    have hbound : ∀ fleet kind, ¬ s.Bound c fleet kind := by
      intro fleet kind hbound
      refine h fleet kind ⟨hbound, fun error hmem hfolded => ?_⟩
      obtain ⟨fault, hruns⟩ := folded_error_iff.mp ⟨error, hmem, hfolded⟩
      rw [findings_eq_error_iff.mpr hruns, hjudged] at hfindings
      cases hfindings
    rw [notice_of_not_bound hbound, map_none_append] at hfindings
    rw [assess, assess, hfindings]

/-- Queued orders are not among what is wrong, and not among what is
suggested. -/
theorem assess_idle (s : Snapshot) (mode : Mode) (c : Command) :
    (assess s mode (some c)).errors = (assess s.idle mode (some c)).errors ∧
      (assess s mode (some c)).suggestions = (assess s.idle mode (some c)).suggestions := by
  by_cases h : ∃ fleet kind, s.Replaces mode c fleet kind
  · obtain ⟨fleet, kind, h⟩ := h
    rw [assess_of_replaces h]
    exact ⟨rfl, rfl⟩
  · rw [assess_of_not_replaces fun fleet kind hreplaces => h ⟨fleet, kind, hreplaces⟩]
    exact ⟨rfl, rfl⟩

/-- A verdict warns of an order exactly when one is replaced. -/
theorem exists_isReplacement_iff :
    (∃ warning ∈ (assess s mode (some c)).warnings, IsReplacement warning) ↔
      ∃ fleet kind, s.Replaces mode c fleet kind := by
  constructor
  · rintro ⟨warning, hmem, hreplacement⟩
    by_contra hno
    rw [assess_of_not_replaces fun fleet kind h => hno ⟨fleet, kind, h⟩] at hmem
    exact not_isReplacement_idle warning hmem hreplacement
  · rintro ⟨fleet, kind, h⟩
    rw [assess_of_replaces h]
    exact ⟨_, List.mem_cons_self, fleet, kind, rfl⟩

/-- Orders that are given go to the end of the queue. -/
theorem foldl_queue (s : Snapshot) (orders : List QueuedOrder) :
    orders.foldl queue s = { s with orders := s.orders ++ orders } := by
  induction orders generalizing s with
  | nil => simp
  | cons o rest ih => simp [ih, queue]

theorem idle_foldl_queue (s : Snapshot) (orders : List QueuedOrder) :
    (orders.foldl queue s).idle = s.idle := by
  rw [foldl_queue]
  rfl

/-- Once the fleet holds an exclusive order, what is given after it adds
nothing to the notice. -/
theorem notice_foldl_queue (hgiven : c.exclusiveFleet? = some fleet)
    (hbinds : ∃ o ∈ s.orders, o.Binds fleet) (orders : List QueuedOrder) :
    (orders.foldl queue s).notice c = s.notice c := by
  obtain ⟨kind, hfirst⟩ := exists_firstBinding_iff.mpr hbinds
  have horder : s.exclusiveOrder? fleet = some kind := exclusiveOrder?_eq_some_iff.mpr hfirst
  have hlater : (orders.foldl queue s).exclusiveOrder? fleet = some kind := by
    rw [foldl_queue]
    exact exclusiveOrder?_eq_some_iff.mpr (hfirst.append orders)
  have hown : (orders.foldl queue s).ownFleet fleet = s.ownFleet fleet := by
    rw [foldl_queue]
    rfl
  simp only [notice, hgiven, hown, replacement, horder, hlater]

end Snapshot

/-- Orders that are queued change none of the errors and suggestions about a
command, nor whether it is valid, and of the warnings one: in front of those
that there are in any case comes the one that names the kind of the first
exclusive order of the fleet. It is there exactly when the command is exclusive
itself, the fleet is the player's and holds such an order, and the verdict is no
fault. Once there is such an order, what is queued behind it changes nothing. -/
theorem queued_orders_add_one_warning (s : Snapshot) (mode : Mode) (c : Command) :
    (∀ orders : List QueuedOrder,
      (assess (orders.foldl Snapshot.queue s) mode (some c)).errors =
          (assess s mode (some c)).errors ∧
        (assess (orders.foldl Snapshot.queue s) mode (some c)).suggestions =
          (assess s mode (some c)).suggestions ∧
        (assess (orders.foldl Snapshot.queue s) mode (some c)).isValid =
          (assess s mode (some c)).isValid) ∧
    (∃ others : List String, (∀ warning ∈ others, ¬ IsReplacement warning) ∧
      ∀ orders : List QueuedOrder,
        (∀ fleet kind, (orders.foldl Snapshot.queue s).Replaces mode c fleet kind →
          (assess (orders.foldl Snapshot.queue s) mode (some c)).warnings =
            (Caution.replaces fleet kind).message :: others) ∧
        ((∀ fleet kind, ¬ (orders.foldl Snapshot.queue s).Replaces mode c fleet kind) →
          (assess (orders.foldl Snapshot.queue s) mode (some c)).warnings = others)) ∧
    ((∃ warning ∈ (assess s mode (some c)).warnings, IsReplacement warning) ↔
      ∃ fleet, c.exclusiveFleet? = some fleet ∧ (∃ f, s.OwnFleet fleet f) ∧
        (∀ error ∈ (assess s mode (some c)).errors, ¬ Folded error) ∧
        ∃ o ∈ s.orders, o.Binds fleet) ∧
    ∀ fleet, c.exclusiveFleet? = some fleet → (∃ o ∈ s.orders, o.Binds fleet) →
      ∀ orders : List QueuedOrder,
        assess (orders.foldl Snapshot.queue s) mode (some c) = assess s mode (some c) := by
  refine ⟨fun orders => ?_, ⟨(assess s.idle mode (some c)).warnings,
    Snapshot.not_isReplacement_idle, fun orders => ⟨fun fleet kind h => ?_, fun h => ?_⟩⟩, ?_,
    fun fleet hgiven hbinds orders => ?_⟩
  · have hidle := Snapshot.assess_idle s mode c
    have hlater := Snapshot.assess_idle (orders.foldl Snapshot.queue s) mode c
    rw [Snapshot.idle_foldl_queue] at hlater
    have herrors := hlater.1.trans hidle.1.symm
    exact ⟨herrors, hlater.2.trans hidle.2.symm, congrArg List.isEmpty herrors⟩
  · rw [Snapshot.assess_of_replaces h, Snapshot.idle_foldl_queue]
  · rw [Snapshot.assess_of_not_replaces h, Snapshot.idle_foldl_queue]
  · rw [Snapshot.exists_isReplacement_iff]
    exact Snapshot.exists_replaces_iff
  · have hjudged : (orders.foldl Snapshot.queue s).findings mode c = s.findings mode c := by
      rw [Snapshot.findings_eq_notice, Snapshot.notice_foldl_queue hgiven hbinds,
        Snapshot.idle_foldl_queue, ← Snapshot.findings_eq_notice]
    rw [assess, assess, hjudged]

/-- Orders for the demonstration map: fleet 1 is to fire, and then to move. -/
def demoOrders : List QueuedOrder :=
  [⟨⟨1⟩, .transfer⟩, ⟨⟨2⟩, .ambush⟩, ⟨⟨1⟩, .fire⟩, ⟨⟨1⟩, .move⟩]

/-- A shot of fleet 1 at its own world replaces the shot that is queued, and not
the move behind it; and behind the shot anything may be queued. -/
theorem queued_orders_add_one_warning_demo :
    (assess (demoOrders.foldl Snapshot.queue .demo) .submission
        (some (.fireAtWorld ⟨1⟩ .industry))).warnings =
      ["Fleet 1 already has a FIRE order this turn; it will be replaced",
        "Firing at your own world 1"] ∧
    ∀ orders : List QueuedOrder,
      assess (orders.foldl Snapshot.queue (Snapshot.demo.queue ⟨⟨1⟩, .fire⟩)) .submission
          (some (.fireAtWorld ⟨1⟩ .industry)) =
        assess (Snapshot.demo.queue ⟨⟨1⟩, .fire⟩) .submission
          (some (.fireAtWorld ⟨1⟩ .industry)) := by
  constructor
  · obtain ⟨-, ⟨others, -, hwarnings⟩, -⟩ :=
      queued_orders_add_one_warning .demo .submission (.fireAtWorld ⟨1⟩ .industry)
    have hnone : ∀ fleet kind,
        ¬ Snapshot.demo.Replaces .submission (.fireAtWorld ⟨1⟩ .industry) fleet kind := by
      intro fleet kind h
      have hqueued : Snapshot.demo.exclusiveOrder? fleet = some kind :=
        Snapshot.exclusiveOrder?_eq_some_iff.mpr h.bound.first
      cases hqueued
    have hothers : others = ["Firing at your own world 1"] := by
      rw [← (hwarnings []).2 hnone]
      decide +kernel
    have howned : (demoOrders.foldl Snapshot.queue .demo).OwnFleet ⟨1⟩
        ⟨⟨1⟩, some "Commander", some ⟨1⟩, 14, 0⟩ :=
      ⟨by decide +kernel, by decide +kernel⟩
    have hfirst : FirstBinding demoOrders ⟨1⟩ .fire :=
      ⟨[⟨⟨1⟩, .transfer⟩, ⟨⟨2⟩, .ambush⟩], _, [⟨⟨1⟩, .move⟩], rfl, by decide, rfl, by decide⟩
    have herrors : (assess (demoOrders.foldl Snapshot.queue .demo) .submission
        (some (.fireAtWorld ⟨1⟩ .industry))).errors = [] := by
      decide +kernel
    have hreplaces : (demoOrders.foldl Snapshot.queue .demo).Replaces .submission
        (.fireAtWorld ⟨1⟩ .industry) ⟨1⟩ .fire :=
      ⟨⟨rfl, ⟨_, howned⟩, hfirst⟩, by rw [herrors]; nofun⟩
    have hwords : (Caution.replaces ⟨1⟩ .fire).message =
        "Fleet 1 already has a FIRE order this turn; it will be replaced" := by
      decide +kernel
    rw [(hwarnings demoOrders).1 ⟨1⟩ .fire hreplaces, hothers, hwords]
  · exact (queued_orders_add_one_warning (Snapshot.demo.queue ⟨⟨1⟩, .fire⟩) .submission
      (.fireAtWorld ⟨1⟩ .industry)).2.2.2 ⟨1⟩ rfl ⟨_, List.mem_singleton_self _, by decide⟩

end FleetOrders
