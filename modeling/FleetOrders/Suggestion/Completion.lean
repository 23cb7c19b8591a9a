/-
FleetOrders.Suggestion.Completion — the suggestions for a line.

A line that is a complete and legal command is offered for sending first.
Then come the suggestions of its stage. Of two suggestions with one text
the first stays, and the limit cuts the end of the list.
-/
import FleetOrders.Command.Reading
import FleetOrders.Suggestion.Stages
import FleetOrders.Verdict

namespace FleetOrders

/-- How many suggestions are given when nothing else is asked for. -/
def defaultLimit : Nat := 10

/-- The line itself, ready to be sent. A warning makes it dangerous and is
told along. -/
def submitSuggestion? (r : Reading) (v : Verdict) : Option Suggestion :=
  if r.isOk && r.consumedAll && v.isValid then
    r.command.bind fun c => c.wire?.map fun wire =>
      match v.warnings with
      | [] => .plain wire c.text .submit
      | warning :: _ => (Suggestion.plain wire (c.text ++ " (" ++ warning ++ ")") .submit).dangerous
  else none

/-- The text is a complete command. -/
def isSubmittable (text : String) : Bool :=
  let r := Reading.final text
  r.error.isNone && r.command.any Command.isComplete

/-- The list without those whose text stood before. -/
def distinctTexts (seen : List String) : List Suggestion → List Suggestion
  | [] => []
  | x :: rest =>
    if seen.contains x.text then distinctTexts seen rest
    else x :: distinctTexts (x.text :: seen) rest

namespace Snapshot

/-- The suggestions of a stage. -/
def staged (s : Snapshot) (limit : Nat) (line : String) (t : Typed) : Stage → List Suggestion
  | .empty => s.topLevel limit
  | .fleet stage => s.fleetStage stage t
  | .world stage => s.worldStage stage t
  | .join => joinSuggestions t
  | .turn => [.turnKeyword]
  | .unknown => s.matching line

/-- At most `limit` suggestions for a line, given its stage and what is
said about it. -/
def suggest (s : Snapshot) (limit : Nat) (line : String) (stage : Stage) (v : Verdict) :
    List Suggestion :=
  let r := Reading.live line
  let found := (submitSuggestion? r v).toList ++ s.staged limit line (.ofTokens r.tokens) stage
  ((distinctTexts [] found).take limit).map fun x =>
    { x with complete := isSubmittable x.text }

end Snapshot

end FleetOrders
