/-
FleetOrders.Token — the words of the order language.

* `TokenKind` — what a token is; `name` is how messages call it.
* `Token` — a kind, its text, and the byte at which it starts in the
  trimmed line.

A list of tokens that was read from a line ends with one token of kind
`endOfInput`, placed at the length of the trimmed line.
-/

namespace FleetOrders

/-- What a token is. -/
inductive TokenKind where
  /-- `F` with a digit right after it. -/
  | fleetMark
  /-- `W` with a digit right after it. -/
  | worldMark
  /-- `B` -/
  | build
  /-- `T` -/
  | transfer
  /-- `A` -/
  | attack
  /-- `I` -/
  | industry
  /-- `P` -/
  | population
  /-- A run of digits that no digit prolongs. -/
  | number
  /-- The word `JOIN`. -/
  | join
  /-- All that follows `JOIN`, with its own letters. -/
  | joinText
  /-- The word `TURN`. -/
  | turn
  /-- A character that the language does not know. -/
  | unknown
  /-- The end of the line. -/
  | endOfInput
  deriving DecidableEq, Repr

namespace TokenKind

/-- The kind as messages call it. -/
def name : TokenKind → String
  | .fleetMark => "FLEET_PREFIX"
  | .worldMark => "WORLD_PREFIX"
  | .build => "BUILD"
  | .transfer => "TRANSFER"
  | .attack => "ATTACK"
  | .industry => "TARGET_INDUSTRY"
  | .population => "TARGET_POPULATION"
  | .number => "NUMBER"
  | .join => "JOIN"
  | .joinText => "JOIN_ARGS"
  | .turn => "TURN"
  | .unknown => "UNKNOWN"
  | .endOfInput => "EOF"

/-- Every kind. -/
def all : List TokenKind :=
  [.fleetMark, .worldMark, .build, .transfer, .attack, .industry, .population, .number,
    .join, .joinText, .turn, .unknown, .endOfInput]

/-- The kind of the given name. -/
def ofName? (s : String) : Option TokenKind :=
  all.find? fun k => k.name == s

end TokenKind

/-- A word of the order language at its place in the trimmed line. -/
structure Token where
  kind : TokenKind
  text : String
  /-- The byte of the trimmed line at which the token starts. -/
  offset : Nat
  deriving DecidableEq, Repr

namespace Token

/-- The byte right after the token. -/
def stop (t : Token) : Nat :=
  t.offset + t.text.utf8ByteSize

/-- The marker that closes every list of tokens. -/
def atEnd (offset : Nat) : Token :=
  ⟨.endOfInput, "", offset⟩

/-- The token marks the end of the line. -/
def isEnd (t : Token) : Bool :=
  t.kind == .endOfInput

end Token

end FleetOrders
