/-
FleetOrders.Suggestion.Stages — the suggestions for each place in an order.

Every function here answers for one place, from the snapshot and from what
was typed. The texts are the canonical text of the first tokens with one
more piece at the end.

* `Snapshot.fleetStage`, `Snapshot.worldStage` — orders to fleets and to
  worlds, place by place.
* `joinSuggestions` — the character types that match the free text.
* `Snapshot.topLevel` — the empty line, heaviest suggestion first.
* `Snapshot.matching` — lines that are no order yet.
-/
import FleetOrders.CharacterType
import FleetOrders.Command.Stage
import FleetOrders.Similarity
import FleetOrders.Snapshot
import FleetOrders.Suggestion.Typed
import FleetOrders.Text.Blank

namespace FleetOrders

open Text (decimal joinWith)

/-! ## Fixed suggestions -/

namespace Suggestion

def action (text description : String) : Suggestion :=
  plain text description .action

def target (text description : String) : Suggestion :=
  plain text description .target

def joinKeyword : Suggestion :=
  plain "JOIN " "Join the game" .keyword

def turnKeyword : Suggestion :=
  plain "TURN" "Finish this turn" .keyword

/-- The actions of a fleet. -/
def fleetActions (base : String) : List Suggestion :=
  [action (base ++ "W") "Move along connected worlds",
    action (base ++ "T") "Transfer ships",
    action (base ++ "A") "Attack or ambush"]

/-- The action of a world. -/
def buildAction (base : String) : Suggestion :=
  action (base ++ "B") "Build ships"

/-- All that is there, if anything is. -/
def wholeAmount (base : String) (available : UInt32) : List Suggestion :=
  if available = 0 then []
  else [plain (base ++ decimal available.toNat)
    ("All " ++ decimal available.toNat ++ " ships") .amount]

/-- Half of what is there, if that is another positive amount. -/
def halfAmount (base : String) (available : UInt32) : List Suggestion :=
  let half := available / 2
  if half = 0 ∨ half = available then []
  else [plain (base ++ decimal half.toNat)
    ("Half (" ++ decimal half.toNat ++ " ships)") .amount]

/-- Amounts of ships out of what is there. -/
def amounts (base : String) (available : UInt32) : List Suggestion :=
  wholeAmount base available ++ halfAmount base available

/-- The suggestions that go on from `typed` and say more than it. -/
def longerThan (typed : String) (found : List Suggestion) : List Suggestion :=
  found.filter fun s => s.text != typed && Text.isHeadOf typed s.text

/-- A fleet in a few words. -/
def fleetNote (f : Fleet) : String :=
  match f.station with
  | some w => decimal f.ships.toNat ++ " ships at " ++ w.text
  | none => decimal f.ships.toNat ++ " ships in transit"

def ofFleet (f : Fleet) : Suggestion :=
  plain f.id.text (fleetNote f) .fleet

def ofCharacter (t : CharacterType) : Suggestion :=
  plain ("JOIN " ++ t.name) ("Join as " ++ t.name) .character

end Suggestion

open Suggestion

/-- Amounts that lengthen the number typed as the fourth token. -/
def Typed.longerAmounts (t : Typed) (available : UInt32) : List Suggestion :=
  longerThan t.text (amounts (t.upTo 3) available)

/-- The character types for the free text after `JOIN`: all of them while
there is none, then those that match it. -/
def joinSuggestions (t : Typed) : List Suggestion :=
  match t.tokens[1]? with
  | some token =>
    if token.kind = .joinText ∧ token.text ≠ "" then
      (Similarity.ranked token.text CharacterType.name CharacterType.all).map
        fun p => ofCharacter p.2
    else CharacterType.all.map ofCharacter
  | none => CharacterType.all.map ofCharacter

namespace Snapshot

variable (s : Snapshot)

/-! ## Worlds and fleets of the map -/

/-- A world in a few words. -/
def worldNote (w : World) : String :=
  let stats := "industry " ++ decimal w.industry.toNat ++ ", population " ++
    decimal w.population.toNat
  match w.owner with
  | some owner => if s.isMine (some owner) then stats else stats ++ " (" ++ owner ++ ")"
  | none => stats ++ " (unowned)"

def suggestWorld (w : World) : Suggestion :=
  plain w.id.text (s.worldNote w) .world

/-- One suggestion for each world that `source` leads to. -/
def hopsFrom (base : String) (source : WorldId) : List Suggestion :=
  match s.world? source with
  | none => []
  | some w => w.connections.map fun next =>
    plain (base ++ next.text)
      (match s.world? next with
        | some there => s.worldNote there
        | none => "Unexplored world")
      .world

/-- The other fleets at the world under a fleet. -/
def neighbours (f : Fleet) : List Fleet :=
  match f.station with
  | none => []
  | some here => (s.fleetsAt here).filter fun g => g.id != f.id

/-! ## Orders to fleets -/

/-- The player's fleets, and the actions of the fleet once its number is
one of them. -/
def fleetNumbers (t : Typed) : List Suggestion :=
  let actions :=
    match t.number? 1 with
    | none => []
    | some n =>
      if s.isMine ((s.fleet? ⟨n⟩).bind Fleet.owner) then
        fleetActions (FleetId.mk n).text
      else []
  t.keepExtending (s.ownFleets.map ofFleet ++ actions)

/-- The actions of a fleet. A `W` without digits is no mark yet: the first
hops are offered for it. -/
def fleetActionStage (fleet : FleetId) (t : Typed) : List Suggestion :=
  if t.count = 3 ∧ t.endsInBareWorld then
    match (s.fleet? fleet).bind Fleet.station with
    | some source => s.hopsFrom (t.upTo 2) source
    | none => fleetActions (t.upTo 2)
  else fleetActions (t.upTo 2)

/-- The world on which the walk stands after the hops. -/
def walkEnd (f : Fleet) (hops : List WorldId) : Option WorldId :=
  hops.getLast?.or f.station

/-- The next hops from the end of the walk. -/
def nextHops (f : Fleet) (hops : List WorldId) (base : String) : List Suggestion :=
  match walkEnd f hops with
  | some source => s.hopsFrom base source
  | none => []

/-- Hops to worlds whose number the last hop typed is the beginning of. -/
def longerHops (f : Fleet) (t : Typed) : List Suggestion :=
  match t.hops with
  | [] => []
  | hops => longerThan t.text (s.nextHops f hops.dropLast (t.upTo (t.count - 2)))

/-- The whole walk in words. -/
def walkNote (start : WorldId) (hops : List WorldId) : String :=
  "Path: " ++ joinWith " -> " ((start :: hops).map WorldId.text)

/-- The first suggestion tells the walk so far, if there is one. -/
def noteWalk (f : Fleet) (hops : List WorldId) : List Suggestion → List Suggestion
  | [] => []
  | first :: rest =>
    match hops, f.station with
    | [], _ => first :: rest
    | _, none => first :: rest
    | _, some start => first.describedAs (walkNote start hops) :: rest

/-- The path of a fleet. -/
def pathStage (fleet : FleetId) (t : Typed) : List Suggestion :=
  match s.fleet? fleet with
  | none => []
  | some f =>
    let whole := 2 + 2 * t.hops.length
    if t.count = whole + 1 ∧ t.endsInBareWorld then s.nextHops f t.hops (t.upTo whole)
    else if t.count ≠ whole then []
    else noteWalk f t.hops (s.nextHops f t.hops t.text ++ s.longerHops f t)

/-- Where the ships of a transfer may go. -/
def transferTargets (fleet : FleetId) (base : String) : List Suggestion :=
  match s.fleet? fleet with
  | none => []
  | some f =>
    match f.station with
    | none => []
    | some here =>
      target (base ++ "I") ("Industry garrison at " ++ here.text) ::
      target (base ++ "P") ("Population garrison at " ++ here.text) ::
      ((s.neighbours f).filter fun g => s.isMine g.owner).map fun g =>
        target (base ++ g.id.text) ("Your " ++ fleetNote g)

/-- A fleet of somebody else, as a target. -/
def hostileTarget (base : String) (g : Fleet) : Suggestion :=
  (target (base ++ g.id.text)
    ("Fire at " ++ g.id.text ++ " (" ++ g.owner.getD "neutral" ++ ", " ++
      decimal g.ships.toNat ++ " ships)")).dangerous

/-- What a fleet may fire at. -/
def attackTargets (fleet : FleetId) (base : String) : List Suggestion :=
  let hostile :=
    match s.fleet? fleet with
    | none => []
    | some f => ((s.neighbours f).filter fun g => !s.isMine g.owner).map (hostileTarget base)
  target base "Ambush fleets arriving here" ::
    target (base ++ "P") "Fire at the world's population" ::
    target (base ++ "I") "Fire at the world's industry" :: hostile

/-- The amount of a transfer: amounts while none is typed, then targets
and longer amounts. -/
def transferAmountStage (fleet : FleetId) (t : Typed) : List Suggestion :=
  if t.count < 4 then
    match s.fleet? fleet with
    | some f => amounts t.text f.ships
    | none => []
  else
    s.transferTargets fleet t.text ++
      match s.fleet? fleet with
      | some f => t.longerAmounts f.ships
      | none => []

/-- The suggestions for an order to a fleet. -/
def fleetStage (stage : FleetStage) (t : Typed) : List Suggestion :=
  match stage, t.number? 1 with
  | .fleetId, _ => s.fleetNumbers t
  | _, none => []
  | .action, some n => s.fleetActionStage ⟨n⟩ t
  | .movePath, some n => t.keepExtending (s.pathStage ⟨n⟩ t)
  | .transferAmount, some n => t.keepExtending (s.transferAmountStage ⟨n⟩ t)
  | .transferTarget, some n => t.keepExtending (s.transferTargets ⟨n⟩ (t.upTo 4))
  | .attackType, some n | .attackTarget, some n =>
    t.keepExtending (s.attackTargets ⟨n⟩ (t.upTo 3))

/-! ## Orders to worlds -/

/-- The player's worlds, and the action of the world once its number is
one of them. -/
def worldNumbers (t : Typed) : List Suggestion :=
  let actions :=
    match t.number? 1 with
    | none => []
    | some n =>
      if s.isMine ((s.world? ⟨n⟩).bind World.owner) then [buildAction (WorldId.mk n).text]
      else []
  t.keepExtending (s.ownWorlds.map s.suggestWorld ++ actions)

/-- Where built ships may go. -/
def buildTargets (world : WorldId) (base : String) : List Suggestion :=
  target (base ++ "I") ("Industry defences at " ++ world.text) ::
    target (base ++ "P") ("Population defences at " ++ world.text) ::
    ((s.fleetsAt world).filter fun f => s.isMine f.owner).map fun f =>
      target (base ++ f.id.text) ("Reinforce " ++ fleetNote f)

/-- The amount of a build: amounts while none is typed, then targets and
longer amounts. -/
def buildAmountStage (world : WorldId) (t : Typed) : List Suggestion :=
  if t.count < 4 then
    match s.world? world with
    | some w => amounts t.text w.industry
    | none => []
  else
    s.buildTargets world t.text ++
      match s.world? world with
      | some w => t.longerAmounts w.industry
      | none => []

/-- The suggestions for an order to a world. -/
def worldStage (stage : WorldStage) (t : Typed) : List Suggestion :=
  match stage, t.number? 1 with
  | .worldId, _ => s.worldNumbers t
  | _, none => []
  | .action, some _ => t.keepExtending [buildAction (t.upTo 2)]
  | .buildAmount, some n => t.keepExtending (s.buildAmountStage ⟨n⟩ t)
  | .buildTarget, some n => t.keepExtending (s.buildTargets ⟨n⟩ (t.upTo 4))

/-! ## Lines that name no order yet -/

/-- Everything an order may start with: `JOIN` until the player has
joined, the player's fleets, the player's worlds, `TURN`. -/
def openings : List Suggestion :=
  (if s.joined then [] else [joinKeyword.weighing 100]) ++
    s.ownFleets.map (fun f => (ofFleet f).weighing 10) ++
    s.ownWorlds.map (fun w => (s.suggestWorld w).weighing 8) ++
    [turnKeyword.weighing 5]

/-- At most `limit` suggestions for the empty line, heaviest first. -/
def topLevel (limit : Nat) : List Suggestion :=
  (s.openings.mergeSort fun a b => b.priority.getD 0 ≤ a.priority.getD 0).take limit

/-- What an order may start with, as far as it matches a line that is no
order. Here the two words are always offered. -/
def matching (line : String) : List Suggestion :=
  (Similarity.ranked (Text.trimmed line) (fun c => Text.trimmed c.text)
    (s.openings ++ [joinKeyword, turnKeyword])).map (·.2)

end Snapshot

end FleetOrders
