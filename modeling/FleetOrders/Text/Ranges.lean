/-
FleetOrders.Text.Ranges — sets of code points, written as ranges.

A table of ranges says for every code point whether it has a property.
-/

namespace FleetOrders.Text

/-- The code point lies in one of the ranges, ends included. -/
def inRanges (ranges : List (Nat × Nat)) (c : Char) : Bool :=
  ranges.any fun r => r.1 ≤ c.toNat && c.toNat ≤ r.2

end FleetOrders.Text
