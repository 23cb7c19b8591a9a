/-
FleetOrders.Proofs.PathDiagnosis — a bad path is diagnosed at its first bad
hop.

The check of a path stops at the first hop that the map does not have, and
what it says there depends on the source of the hop alone. A source that is
in the snapshot makes the path broken at that hop; one that is not makes the
snapshot inconsistent.

* `FirstBadHop` — the first hop of a path that the map does not have.
* `Snapshot.walk_or_firstBadHop` — a path is a walk or has such a hop.
* `Snapshot.checkPath_of_firstBadHop` — what the check of the path says of it;
  a path is called broken only there (`Snapshot.firstBadHop_of_broken`).
* `path_diagnosis` — what a move of one of the player's fleets is told, in
  words.
-/
import FleetOrders.Proofs.Legality
import FleetOrders.Snapshot.Demo

namespace FleetOrders

/-- Going from `start` along the path, the hop from `source` to `goal` is the
first that the map does not have: what lies before it is a walk, and `source`
is where that walk ends. -/
def FirstBadHop (s : Snapshot) (start : WorldId) (path : List WorldId) (source goal : WorldId) :
    Prop :=
  ∃ before after, path = before ++ goal :: after ∧ s.Walk start before ∧
    (start :: before).getLast? = some source ∧ ¬ s.Hop source goal

namespace Snapshot

variable {s : Snapshot} {start source goal : WorldId} {path : List WorldId}

/-! ## The first bad hop of a path -/

theorem firstBadHop_here (h : ¬ s.Hop start goal) (rest : List WorldId) :
    FirstBadHop s start (goal :: rest) start goal :=
  ⟨[], rest, rfl, List.isChain_singleton start, rfl, h⟩

theorem firstBadHop_later {next : WorldId} (hhop : s.Hop start next)
    (h : FirstBadHop s next path source goal) :
    FirstBadHop s start (next :: path) source goal := by
  obtain ⟨before, after, rfl, hwalk, hlast, hbad⟩ := h
  refine ⟨next :: before, after, rfl, List.isChain_cons_cons.mpr ⟨hhop, hwalk⟩, ?_, hbad⟩
  rw [List.getLast?_cons_cons, hlast]

/-- The first bad hop of a path is its first hop, or that of the rest of the
path behind a hop that the map has. -/
theorem firstBadHop_cases {next : WorldId} (h : FirstBadHop s start (next :: path) source goal) :
    (¬ s.Hop start next ∧ source = start ∧ goal = next) ∨
      (s.Hop start next ∧ FirstBadHop s next path source goal) := by
  obtain ⟨before, after, hpath, hwalk, hlast, hbad⟩ := h
  cases before with
  | nil =>
    obtain ⟨rfl, -⟩ := List.cons.inj hpath
    obtain rfl : start = source := Option.some.inj hlast
    exact .inl ⟨hbad, rfl, rfl⟩
  | cons first before =>
    obtain ⟨rfl, rfl⟩ := List.cons.inj hpath
    obtain ⟨hhop, hwalk⟩ := List.isChain_cons_cons.mp hwalk
    rw [List.getLast?_cons_cons] at hlast
    exact .inr ⟨hhop, before, after, rfl, hwalk, hlast, hbad⟩

theorem not_firstBadHop_nil : ¬ FirstBadHop s start [] source goal := by
  rintro ⟨before, after, hpath, -⟩
  cases before <;> cases hpath

/-- A path is a walk, or one of its hops is the first that the map does not
have. -/
theorem walk_or_firstBadHop (start : WorldId) (path : List WorldId) :
    s.Walk start path ∨ ∃ source goal, FirstBadHop s start path source goal := by
  induction path generalizing start with
  | nil => exact .inl (List.isChain_singleton start)
  | cons next rest ih =>
    by_cases hhop : s.Hop start next
    · rcases ih next with hwalk | ⟨source, goal, hbad⟩
      · exact .inl (List.isChain_cons_cons.mpr ⟨hhop, hwalk⟩)
      · exact .inr ⟨source, goal, firstBadHop_later hhop hbad⟩
    · exact .inr ⟨start, next, firstBadHop_here hhop rest⟩

theorem not_walk_of_firstBadHop (h : FirstBadHop s start path source goal) :
    ¬ s.Walk start path := by
  intro hwalk
  induction path generalizing start with
  | nil => exact not_firstBadHop_nil h
  | cons next rest ih =>
    obtain ⟨hhop, hrest⟩ := List.isChain_cons_cons.mp hwalk
    rcases firstBadHop_cases h with ⟨hbad, -, -⟩ | ⟨-, hlater⟩
    · exact hbad hhop
    · exact ih hlater hrest

/-! ## What the check says -/

/-- The check of a path ends at the first bad hop: the path is broken there,
or the world that the hop leaves from is missing. -/
theorem checkPath_of_firstBadHop (h : FirstBadHop s start path source goal) :
    s.checkPath start path =
      match s.world? source with
      | some _ => .ok (.broken source goal)
      | none => .error (.missingWorld source) := by
  induction path generalizing start with
  | nil => exact absurd h not_firstBadHop_nil
  | cons next rest ih =>
    rcases firstBadHop_cases h with ⟨hbad, rfl, rfl⟩ | ⟨⟨w, hw, hleads⟩, hlater⟩
    · cases hw : s.world? source with
      | none => simp [checkPath, hw]
      | some w =>
        have hleads : goal ∉ w.connections := fun hmem => hbad ⟨w, hw, hmem⟩
        simp [checkPath, hw, World.leadsTo, hleads]
    · rw [← ih hlater]
      simp [checkPath, hw, World.leadsTo, hleads]

/-- A path is called broken at its first bad hop only, and then the world
that the hop leaves from is in the snapshot. -/
theorem firstBadHop_of_broken (h : s.checkPath start path = .ok (.broken source goal)) :
    FirstBadHop s start path source goal ∧ ∃ w, s.world? source = some w := by
  rcases s.walk_or_firstBadHop start path with hwalk | ⟨source', goal', hbad⟩
  · rw [checkPath_eq_connected_iff.mpr hwalk] at h
    cases h
  · have hcheck := checkPath_of_firstBadHop hbad
    rw [h] at hcheck
    cases hw : s.world? source' with
    | none =>
      rw [hw] at hcheck
      cases hcheck
    | some w =>
      rw [hw] at hcheck
      injection hcheck with hcheck
      injection hcheck with hsource hgoal
      subst hsource hgoal
      exact ⟨hbad, w, hw⟩

/-! ## What a move is told -/

/-- What is found about a move of the fleet whatever its path. -/
def beforePath (s : Snapshot) (fleet : FleetId) (f : Fleet) : Findings :=
  needsShips f ++ s.replacement fleet

theorem hints_beforePath (fleet : FleetId) (f : Fleet) : (s.beforePath fleet f).hints = [] := by
  have hships : (needsShips f).hints = [] := by
    unfold needsShips Findings.given
    split <;> rfl
  have hreplaced : (s.replacement fleet).hints = [] := by
    unfold replacement
    split <;> rfl
  rw [beforePath, Findings.hints_append, hships, hreplaced]
  rfl

section Move

variable {fleet : FleetId} {f : Fleet} (hown : s.OwnFleet fleet f) (hstation : f.station = some start)
include hown hstation

/-- About the path of a move is found what is found about the walk from where
the fleet is. -/
theorem moveFindings_eq (path : List WorldId) :
    s.moveFindings fleet path = (s.pathFindings start path).map (s.beforePath fleet f ++ ·) := by
  simp only [moveFindings, withOwnFleet, ownFleet_eq_ok_iff.mpr hown, hstation]
  rfl

theorem moveFindings_of_walk (h : s.Walk start path) :
    s.moveFindings fleet path = .ok (s.beforePath fleet f) := by
  rw [moveFindings_eq hown hstation, pathFindings, checkPath_eq_connected_iff.mpr h]
  simp only [Except.map]
  congr 1
  obtain ⟨objections, cautions, hints⟩ := s.beforePath fleet f
  show Findings.append _ _ = _
  simp [Findings.append, Findings.none]

theorem moveFindings_of_broken (h : FirstBadHop s start path source goal) {w : World}
    (hw : s.world? source = some w) :
    s.moveFindings fleet path =
      .ok (s.beforePath fleet f ++ (.ofObjection (.notConnected source goal) ++
        .ofHint (.connections source w.connections))) := by
  have hcheck := checkPath_of_firstBadHop h
  rw [hw] at hcheck
  simp only [moveFindings_eq hown hstation, pathFindings, hcheck, hw, Except.map]

theorem moveFindings_of_missing (h : FirstBadHop s start path source goal)
    (hw : s.world? source = none) :
    s.moveFindings fleet path = .error (.missingWorld source) := by
  have hcheck := checkPath_of_firstBadHop h
  rw [hw] at hcheck
  simp only [moveFindings_eq hown hstation, pathFindings, hcheck, Except.map]

/-- In words: one error about the hop, and one hint about its source. -/
theorem assess_move_of_broken (h : FirstBadHop s start path source goal) {w : World}
    (hw : s.world? source = some w) (mode : Mode) :
    assess s mode (some (.move fleet path)) =
      { errors := (s.beforePath fleet f).verdict.errors ++
          [(Objection.notConnected source goal).message]
        warnings := (s.beforePath fleet f).verdict.warnings
        suggestions := [(Hint.connections source w.connections).message] } := by
  have hfindings : s.findings mode (.move fleet path) = s.moveFindings fleet path := rfl
  rw [assess, hfindings, moveFindings_of_broken hown hstation h hw]
  simp [Findings.ofExcept, Findings.verdict, Findings.ofObjection, Findings.ofHint,
    hints_beforePath]

end Move

end Snapshot

/-- The hint about the connections of a world, in words. -/
theorem Hint.message_connections (world : WorldId) (targets : List WorldId) :
    (Hint.connections world targets).message =
      if targets = [] then "World " ++ world.numeral ++ " has no connections"
      else "World " ++ world.numeral ++ " connects to: " ++ listWorlds targets := by
  cases targets <;> rfl

/-- A move of one of the player's fleets that is stationed, along any path.
If the path is a walk, the check finds it connected and nothing is found about
it. Otherwise there is a first bad hop, and the diagnosis is about that one:
either its source is in the snapshot, and one error names the hop and one hint
lists what the source is connected to, or the source is missing, and that is
the fault. So a path is never called broken at a world that is missing. -/
theorem path_diagnosis {s : Snapshot} {fleet : FleetId} {f : Fleet} {start : WorldId}
    (hown : s.OwnFleet fleet f) (hstation : f.station = some start) (path : List WorldId) :
    (s.Walk start path →
      s.checkPath start path = .ok .connected ∧
        s.moveFindings fleet path = .ok (s.beforePath fleet f)) ∧
    (¬ s.Walk start path ↔ ∃ source goal, FirstBadHop s start path source goal) ∧
    (∀ source goal, FirstBadHop s start path source goal →
      (∀ w, s.world? source = some w →
        s.checkPath start path = .ok (.broken source goal) ∧
          ∀ mode, assess s mode (some (.move fleet path)) =
            { errors := (s.beforePath fleet f).verdict.errors ++
                ["World " ++ source.numeral ++ " is not connected to world " ++ goal.numeral]
              warnings := (s.beforePath fleet f).verdict.warnings
              suggestions :=
                [if w.connections = [] then "World " ++ source.numeral ++ " has no connections"
                  else "World " ++ source.numeral ++ " connects to: " ++
                    listWorlds w.connections] }) ∧
      (s.world? source = none →
        s.checkPath start path = .error (.missingWorld source) ∧
          s.moveFindings fleet path = .error (.missingWorld source))) ∧
    ∀ source goal, s.checkPath start path = .ok (.broken source goal) →
      ∃ w, s.world? source = some w := by
  refine ⟨?_, ⟨?_, ?_⟩, ?_, ?_⟩
  · intro hwalk
    exact ⟨Snapshot.checkPath_eq_connected_iff.mpr hwalk,
      Snapshot.moveFindings_of_walk hown hstation hwalk⟩
  · intro hno
    exact (s.walk_or_firstBadHop start path).resolve_left hno
  · rintro ⟨source, goal, hbad⟩
    exact Snapshot.not_walk_of_firstBadHop hbad
  · intro source goal hbad
    have hcheck := Snapshot.checkPath_of_firstBadHop hbad
    constructor
    · intro w hw
      refine ⟨by rw [hcheck, hw], fun mode => ?_⟩
      rw [← Hint.message_connections]
      exact Snapshot.assess_move_of_broken hown hstation hbad hw mode
    · intro hw
      exact ⟨by rw [hcheck, hw], Snapshot.moveFindings_of_missing hown hstation hbad hw⟩
  · intro source goal hbroken
    exact (Snapshot.firstBadHop_of_broken hbroken).2

/-- The demonstration map with a connection to a world that it does not
hold. -/
def Snapshot.demoWithLooseEnd : Snapshot :=
  demo.addWorld ⟨⟨2⟩, none, 4, 10, [⟨1⟩, ⟨9⟩]⟩

/-- On the demonstration map: a walk, a path that is broken at its third hop,
and one that goes on from a world that is missing. -/
theorem path_diagnosis_demo :
    Snapshot.demo.moveFindings ⟨1⟩ [⟨3⟩, ⟨4⟩] = .ok .none ∧
    assess .demo .submission (some (.move ⟨1⟩ [⟨3⟩, ⟨4⟩, ⟨1⟩, ⟨9⟩])) =
      ⟨["World 4 is not connected to world 1"], [], ["World 4 connects to: W2, W3"]⟩ ∧
    Snapshot.demoWithLooseEnd.moveFindings ⟨1⟩ [⟨2⟩, ⟨9⟩, ⟨1⟩] = .error (.missingWorld ⟨9⟩) := by
  have hfleet : Snapshot.demo.fleet? ⟨1⟩ =
      some ⟨⟨1⟩, some "Commander", some ⟨1⟩, 14, 0⟩ := by
    decide +kernel
  have hloose : Snapshot.demoWithLooseEnd.fleet? ⟨1⟩ =
      some ⟨⟨1⟩, some "Commander", some ⟨1⟩, 14, 0⟩ := by
    decide +kernel
  have hwalk : Snapshot.demo.checkPath ⟨1⟩ [⟨3⟩, ⟨4⟩] = .ok .connected := by decide +kernel
  have hbroken : Snapshot.demo.checkPath ⟨1⟩ [⟨3⟩, ⟨4⟩, ⟨1⟩, ⟨9⟩] = .ok (.broken ⟨4⟩ ⟨1⟩) := by
    decide +kernel
  have hreached : Snapshot.demoWithLooseEnd.checkPath ⟨1⟩ [⟨2⟩, ⟨9⟩] = .ok .connected := by
    decide +kernel
  have hmissing : Snapshot.demoWithLooseEnd.world? ⟨9⟩ = none := by decide +kernel
  have hworld : Snapshot.demo.world? ⟨4⟩ = some ⟨⟨4⟩, some "Vex", 9, 30, [⟨2⟩, ⟨3⟩]⟩ := by
    decide +kernel
  have hbad : FirstBadHop .demo ⟨1⟩ [⟨3⟩, ⟨4⟩, ⟨1⟩, ⟨9⟩] ⟨4⟩ ⟨1⟩ :=
    (Snapshot.firstBadHop_of_broken hbroken).1
  have hbadLoose : FirstBadHop .demoWithLooseEnd ⟨1⟩ [⟨2⟩, ⟨9⟩, ⟨1⟩] ⟨9⟩ ⟨1⟩ := by
    refine ⟨[⟨2⟩, ⟨9⟩], [], rfl, Snapshot.checkPath_eq_connected_iff.mp hreached, rfl, ?_⟩
    rintro ⟨w, hw, -⟩
    rw [hmissing] at hw
    cases hw
  have hbefore : Snapshot.demo.beforePath ⟨1⟩ ⟨⟨1⟩, some "Commander", some ⟨1⟩, 14, 0⟩ = .none := by
    decide +kernel
  have hwords : "World " ++ (WorldId.mk 4).numeral ++ " is not connected to world " ++
        (WorldId.mk 1).numeral = "World 4 is not connected to world 1" ∧
      "World " ++ (WorldId.mk 4).numeral ++ " connects to: " ++ listWorlds [⟨2⟩, ⟨3⟩] =
        "World 4 connects to: W2, W3" := by
    decide +kernel
  refine ⟨?_, ?_, ?_⟩
  · rw [← hbefore]
    exact ((path_diagnosis ⟨hfleet, rfl⟩ rfl _).1
      (Snapshot.checkPath_eq_connected_iff.mp hwalk)).2
  · have hverdict :=
      (((path_diagnosis ⟨hfleet, rfl⟩ rfl _).2.2.1 _ _ hbad).1 _ hworld).2 .submission
    rw [hbefore, if_neg (List.cons_ne_nil _ _), hwords.1, hwords.2] at hverdict
    exact hverdict
  · exact (((path_diagnosis ⟨hloose, rfl⟩ rfl _).2.2.1 _ _ hbadLoose).2 hmissing).2

end FleetOrders
