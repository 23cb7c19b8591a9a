/-
FleetOrders.Ids — the numbers of fleets and worlds.

A fleet number and a world number are both 32-bit numbers, and never the
same thing: `F5` and `W5` are their texts in orders. What speaks of one of
either kind is a `Subject`.
-/
import FleetOrders.Text.Decimal

namespace FleetOrders

open Text (decimal)

/-- The number of a fleet. -/
structure FleetId where
  number : UInt32
  deriving DecidableEq, Repr

/-- The number of a world. -/
structure WorldId where
  number : UInt32
  deriving DecidableEq, Repr

theorem FleetId.eq_of_number {f g : FleetId} (h : f.number = g.number) : f = g :=
  congrArg FleetId.mk h

theorem WorldId.eq_of_number {v w : WorldId} (h : v.number = w.number) : v = w :=
  congrArg WorldId.mk h

/-- The number of a fleet in digits. -/
def FleetId.numeral (f : FleetId) : String :=
  decimal f.number.toNat

/-- The number of a world in digits. -/
def WorldId.numeral (w : WorldId) : String :=
  decimal w.number.toNat

/-- A fleet as orders write it. -/
def FleetId.text (f : FleetId) : String :=
  "F" ++ f.numeral

/-- A world as orders write it. -/
def WorldId.text (w : WorldId) : String :=
  "W" ++ w.numeral

/-- A fleet or a world that a message speaks of. -/
inductive Subject where
  | fleet (id : FleetId)
  | world (id : WorldId)
  deriving DecidableEq, Repr

/-- A subject as messages name it. -/
def Subject.text : Subject → String
  | .fleet id => "Fleet " ++ id.numeral
  | .world id => "World " ++ id.numeral

end FleetOrders
