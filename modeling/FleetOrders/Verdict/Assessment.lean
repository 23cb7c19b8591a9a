/-
FleetOrders.Verdict.Assessment — a command judged against a snapshot.

* `Snapshot.findings` — what is found about a complete command, or the
  fault that a check ran into.
* `assess` — the verdict. A fault takes the place of everything that had
  been found before it.
* `Mode` — live feedback lets the beginning of an order pass; at
  submission it is an error.
-/
import FleetOrders.Command.Grammar
import FleetOrders.Text.Blank
import FleetOrders.Verdict.Finding

namespace FleetOrders

/-- How much of an order must be there. -/
inductive Mode where
  /-- Feedback while the player types: the beginning of an order will do. -/
  | live
  /-- Submission: the order must be complete. -/
  | submission
  deriving DecidableEq, Repr

namespace Snapshot

variable (s : Snapshot)

/-! ## Findings that several orders share -/

/-- The player's fleets as a hint. -/
def fleetsHint : Findings :=
  .ofHint (.yourFleets (s.ownFleets.map Fleet.id))

/-- The player's worlds as a hint. -/
def worldsHint : Findings :=
  .ofHint (.yourWorlds (s.ownWorlds.map World.id))

/-- Judges an order to a fleet by `check`, if the player owns the fleet. -/
def withOwnFleet (fleet : FleetId) (check : Fleet → Except Fault Findings) :
    Except Fault Findings :=
  match s.ownFleet fleet with
  | .ok f => check f
  | .error e => .ok (.ofObjection (.ownership e) ++ s.fleetsHint)

/-- A fleet without ships can do nothing that needs them. -/
def needsShips (f : Fleet) : Findings :=
  .given (f.ships == 0) (.ofObjection (.noShips f.id))

/-- The fleet holds an exclusive order already. -/
def replacement (fleet : FleetId) : Findings :=
  match s.exclusiveOrder? fleet with
  | some kind => .ofCaution (.replaces fleet kind)
  | none => .none

/-- The two fleets must be at one world. -/
def needsTogether (actor other : Fleet) : Findings :=
  .given (!actor.areTogether other) (.ofObjection (.apart other.id actor.id))

/-- The amount must be there. -/
def needsAmount (supply : Supply) (amount available : UInt32) : Findings :=
  match checkAmount amount available with
  | .ok () => .none
  | .error .zero => .ofObjection (.amount supply .zero)
  | .error (.insufficient need there) =>
    .ofObjection (.amount supply (.insufficient need there)) ++ .ofHint (.most supply there)

/-! ## Orders to a fleet -/

/-- A path from where the fleet is. -/
def pathFindings (start : WorldId) (path : List WorldId) : Except Fault Findings :=
  match s.checkPath start path with
  | .error fault => .error fault
  | .ok .connected => .ok .none
  | .ok (.broken source goal) =>
    match s.world? source with
    | none => .error (.missingWorld source)
    | some w =>
      .ok (.ofObjection (.notConnected source goal) ++
        .ofHint (.connections source w.connections))

def moveFindings (fleet : FleetId) (path : List WorldId) : Except Fault Findings :=
  s.withOwnFleet fleet fun f =>
    let before := needsShips f ++ s.replacement fleet
    match f.station with
    | none => .ok (before ++ .ofObjection (.inTransit fleet .move))
    | some start => (s.pathFindings start path).map (before ++ ·)

/-- Ships that leave a fleet for the defence of the world under it. -/
def garrisonFindings (fleet : FleetId) (f : Fleet) : Except Fault Findings :=
  match f.station with
  | none => .ok (.ofObjection (.inTransit fleet .transferToWorld))
  | some here =>
    match s.world? here with
    | none => .error (.danglingWorld fleet here)
    | some w => .ok (.given (!s.isMine w.owner) (.ofObjection (.foreignGarrison here)))

/-- Ships that go from one fleet to another. -/
def handoverFindings (fleet : FleetId) (f : Fleet) (other : FleetId) : Findings :=
  if other = fleet then .ofObjection (.transferToSelf fleet)
  else
    match s.fleet? other with
    | none => .ofObjection (.ownership (.missing (.fleet other)))
    | some receiver => needsTogether f receiver

def transferFindings (fleet : FleetId) (amount : UInt32) (goal : Destination) :
    Except Fault Findings :=
  s.withOwnFleet fleet fun f =>
    let before := needsAmount .ships amount f.ships
    match goal with
    | .industry | .population => (s.garrisonFindings fleet f).map (before ++ ·)
    | .fleet other => .ok (before ++ s.handoverFindings fleet f other)

/-- How much of a resource a world has. -/
def amountOf (w : World) : Resource → UInt32
  | .population => w.population
  | .industry => w.industry

def fireAtWorldFindings (fleet : FleetId) (target : Resource) : Except Fault Findings :=
  s.withOwnFleet fleet fun f =>
    let before := needsShips f ++ s.replacement fleet
    match f.station with
    | none => .ok (before ++ .ofObjection (.inTransit fleet .fireAtWorld))
    | some here =>
      match s.world? here with
      | none => .error (.danglingWorld fleet here)
      | some w =>
        .ok (before ++
          .given (amountOf w target == 0) (.ofCaution (.nothingToHit here target)) ++
          .given (s.isMine w.owner) (.ofCaution (.ownWorld here)))

def fireAtFleetFindings (fleet target : FleetId) : Except Fault Findings :=
  s.withOwnFleet fleet fun f =>
    let before := needsShips f ++ s.replacement fleet
    if target = fleet then .ok (before ++ .ofObjection (.fireAtSelf fleet))
    else
      match s.fleet? target with
      | none => .ok (before ++ .ofObjection (.ownership (.missing (.fleet target))))
      | some victim =>
        .ok (before ++ needsTogether f victim ++
          .given (s.isMine victim.owner) (.ofCaution (.ownFleet target)))

def ambushFindings (fleet : FleetId) : Except Fault Findings :=
  s.withOwnFleet fleet fun f =>
    .ok (s.replacement fleet ++
      .given (!f.isStationed) (.ofObjection (.inTransit fleet .ambush)))

/-! ## Orders to a world -/

/-- Ships that a world builds for a fleet. -/
def reinforcementFindings (world : WorldId) (receiver : FleetId) : Findings :=
  match s.ownFleet receiver with
  | .error e => .ofObjection (.ownership e)
  | .ok f =>
    if f.station = some world then .none
    else
      let here := ((s.fleetsAt world).filter fun g => s.isMine g.owner).map Fleet.id
      .ofObjection (.notAtWorld receiver world) ++
        .given (!here.isEmpty) (.ofHint (.yourFleetsAt world here))

def buildFindings (world : WorldId) (amount : UInt32) (goal : Destination) : Findings :=
  match s.ownWorld world with
  | .error e => .ofObjection (.ownership e) ++ s.worldsHint
  | .ok w =>
    needsAmount .industry amount w.industry ++
      match goal with
      | .industry | .population => .none
      | .fleet receiver => s.reinforcementFindings world receiver

/-! ## Any command -/

/-- The text of `JOIN` must name a character; one that is not known is let
pass. -/
def joinFindings (text : String) : Findings :=
  let free := Text.trimmed text
  if free = "" then .ofObjection .joinWithoutText ++ .ofHint .characterTypes
  else .given (CharacterType.find? free).isNone (.ofCaution (.unknownCharacter free))

/-- The complete order that the beginning of an order can only become. -/
def grownKind? : CommandKind → Option CommandKind
  | .partialWorld | .partialBuild => some .build
  | .partialTransfer => some .transfer
  | .partialJoin => some .join
  | _ => none

/-- The beginning of an order, met at submission. -/
def unfinishedFindings (c : Command) : Findings :=
  .ofObjection (.incomplete c) ++
    match (grownKind? c.kind).bind Grammar.production? with
    | some shape => .ofHint (.sample shape.sample)
    | none => .none

/-- All that is found about a command, or the fault that a check ran
into. -/
def findings (mode : Mode) : Command → Except Fault Findings
  | .move fleet path => s.moveFindings fleet path
  | .build world amount goal => .ok (s.buildFindings world amount goal)
  | .transfer fleet amount goal => s.transferFindings fleet amount goal
  | .fireAtWorld fleet target => s.fireAtWorldFindings fleet target
  | .fireAtFleet fleet target => s.fireAtFleetFindings fleet target
  | .ambush fleet => s.ambushFindings fleet
  | .join text => .ok (joinFindings text)
  | .turn => .ok .none
  | .partialJoin =>
    match mode with
    | .live => .ok .none
    | .submission => .ok (joinFindings "")
  | c@(.partialFleet _) | c@(.partialWorld _) | c@(.partialTransfer _ _)
  | c@(.partialBuild _ _) =>
    match mode with
    | .live => .ok .none
    | .submission => .ok (unfinishedFindings c)

end Snapshot

/-- The findings, with a fault in the place of all of them. -/
def Findings.ofExcept : Except Fault Findings → Findings
  | .ok f => f
  | .error fault => .ofObjection (.fault fault)

/-- The verdict about what was read from a line; a line that gave no
command is invalid. -/
def assess (s : Snapshot) (mode : Mode) : Option Command → Verdict
  | none => (Findings.ofObjection .nothingRead).verdict
  | some c => (Findings.ofExcept (s.findings mode c)).verdict

end FleetOrders
