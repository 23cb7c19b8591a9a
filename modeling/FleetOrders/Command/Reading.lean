/-
FleetOrders.Command.Reading — a line read as a command.

Reading goes down the grammar one token at a time. Each reader below takes
the tokens that are left and returns what it read and the tokens after it,
or the first error.

* `Reading.live` — the reading of a line that is still being typed. A
  beginning of an order is read as a partial command.
* `Reading.final` — the reading of a line that is to be sent. Tokens left
  over after a command are an error.

The two differ in that one error only.
-/
import FleetOrders.Command
import FleetOrders.Command.Stage
import FleetOrders.Command.SyntaxError
import FleetOrders.Token.Segment

namespace FleetOrders

namespace Reading

/-! ## Single tokens -/

/-- The first token; with none left, the end of an empty line. -/
def next (ts : List Token) : Token :=
  ts.headD (Token.atEnd 0)

/-- One token of the given kind. -/
def one (kind : TokenKind) (ts : List Token) : Except SyntaxError (Token × List Token) :=
  if (next ts).kind = kind then .ok (next ts, ts.tail)
  else .error (.expected (.one kind) (next ts))

/-- One number of at most 32 bits. -/
def number (ts : List Token) : Except SyntaxError (UInt32 × List Token) := do
  let (t, rest) ← one .number ts
  match Text.word32? t.text.toList with
  | some n => .ok (n, rest)
  | none => .error (.numberOutOfRange t)

/-! ## Parts of orders -/

/-- The worlds of a path: as many as follow each other, perhaps none. -/
def hops : List Token → Except SyntaxError (List WorldId × List Token)
  | [] => .ok ([], [])
  | mark :: rest =>
    if mark.kind = .worldMark then
      match rest with
      | [] => .error (.expected (.one .number) (Token.atEnd 0))
      | digits :: rest' => do
        let (n, _) ← number (digits :: rest')
        let (path, left) ← hops rest'
        .ok (⟨n⟩ :: path, left)
    else .ok ([], mark :: rest)

/-- A destination of ships, if one follows. -/
def destination? (ts : List Token) : Except SyntaxError (Option Destination × List Token) :=
  match (next ts).kind with
  | .industry => .ok (some .industry, ts.tail)
  | .population => .ok (some .population, ts.tail)
  | .fleetMark => do
    let (n, rest) ← number ts.tail
    .ok (some (.fleet ⟨n⟩), rest)
  | _ => .ok (none, ts)

/-- What follows `A`. A token that names no target is left where it is:
the order is then an ambush. -/
def attack (fleet : FleetId) (ts : List Token) : Except SyntaxError (Command × List Token) :=
  match (next ts).kind with
  | .population => .ok (.fireAtWorld fleet .population, ts.tail)
  | .industry => .ok (.fireAtWorld fleet .industry, ts.tail)
  | .fleetMark => do
    let (n, rest) ← number ts.tail
    .ok (.fireAtFleet fleet ⟨n⟩, rest)
  | _ => .ok (.ambush fleet, ts)

/-- What follows `T`. -/
def transfer (fleet : FleetId) (ts : List Token) : Except SyntaxError (Command × List Token) := do
  let (amount, rest) ← number ts
  let (goal, left) ← destination? rest
  match goal with
  | some d => .ok (.transfer fleet amount d, left)
  | none => .ok (.partialTransfer fleet amount, left)

/-! ## Orders -/

/-- The tokens that may follow the number of a fleet. -/
def fleetActions : List TokenKind :=
  [.worldMark, .transfer, .attack]

/-- An order to a fleet, from the mark on. -/
def fleetOrder (ts : List Token) : Except SyntaxError (Command × List Token) := do
  let (_, rest) ← one .fleetMark ts
  let (n, left) ← number rest
  match (next left).kind with
  | .endOfInput => .ok (.partialFleet ⟨n⟩, left)
  | .worldMark => do
    let (path, after) ← hops left
    .ok (.move ⟨n⟩ path, after)
  | .transfer => transfer ⟨n⟩ left.tail
  | .attack => attack ⟨n⟩ left.tail
  | _ => .error (.expected (.anyOf fleetActions) (next left))

/-- An order to a world, from the mark on. -/
def worldOrder (ts : List Token) : Except SyntaxError (Command × List Token) := do
  let (_, rest) ← one .worldMark ts
  let (n, left) ← number rest
  if (next left).isEnd then .ok (.partialWorld ⟨n⟩, left)
  else
    let (_, after) ← one .build left
    let (amount, after) ← number after
    let (goal, after) ← destination? after
    match goal with
    | some d => .ok (.build ⟨n⟩ amount d, after)
    | none => .ok (.partialBuild ⟨n⟩ amount, after)

/-- What follows `JOIN`. -/
def joinOrder (ts : List Token) : Command × List Token :=
  if (next ts).kind = .joinText then (.join (next ts).text, ts.tail) else (.partialJoin, ts)

/-- The tokens that may start an order. -/
def orderStarts : List TokenKind :=
  [.fleetMark, .worldMark, .join, .turn]

/-- The order that the tokens start with; none if there are no tokens. -/
def order (ts : List Token) : Except SyntaxError (Option Command × List Token) :=
  match (next ts).kind with
  | .endOfInput => .ok (none, ts)
  | .fleetMark => do
    let (c, rest) ← fleetOrder ts
    .ok (some c, rest)
  | .worldMark => do
    let (c, rest) ← worldOrder ts
    .ok (some c, rest)
  | .join => .ok (some (joinOrder ts.tail).1, (joinOrder ts.tail).2)
  | .turn => .ok (some .turn, ts.tail)
  | _ => .error (.expected (.anyOf orderStarts) (next ts))

end Reading

/-! ## Readings of a line -/

/-- What a line says. -/
structure Reading where
  /-- The command, as far as one could be read. -/
  command : Option Command
  /-- The stage of the line, found apart from the command. -/
  stage : Stage
  /-- The first error, if there is one. -/
  error : Option SyntaxError
  /-- No token is left over after the command. -/
  consumedAll : Bool
  /-- The tokens of the line, the end marker included. -/
  tokens : List Token
  deriving DecidableEq, Repr

namespace Reading

/-- A command was read without error. -/
def isOk (r : Reading) : Bool :=
  r.error.isNone && r.command.isSome

/-- Nothing but blanks was typed. -/
def isEmpty (r : Reading) : Bool :=
  r.stage == .empty

/-- The reading of tokens while the line is being typed. -/
def liveOfTokens (ts : List Token) : Reading :=
  match order ts with
  | .ok (c, rest) => ⟨c, .ofTokens ts, none, (next rest).isEnd, ts⟩
  | .error e => ⟨none, .ofTokens ts, some e, false, ts⟩

/-- The reading of tokens that are to be sent. -/
def finalOfTokens (ts : List Token) : Reading :=
  match order ts with
  | .ok (c, rest) =>
    if (next rest).isEnd then ⟨c, .ofTokens ts, none, true, ts⟩
    else ⟨c, .ofTokens ts, some (.incomplete (next rest)), false, ts⟩
  | .error e => ⟨none, .ofTokens ts, some e, false, ts⟩

/-- The reading of a line that is still being typed. -/
def live (line : String) : Reading :=
  liveOfTokens (tokenize line)

/-- The reading of a line that is to be sent. -/
def final (line : String) : Reading :=
  finalOfTokens (tokenize line)

end Reading

end FleetOrders
