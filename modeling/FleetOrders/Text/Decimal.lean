/-
FleetOrders.Text.Decimal — decimal numerals.

* `digits`, `decimal` — the numeral of a number, without leading zeros.
* `numeral` — the number a run of digits stands for, leading zeros and
  all.
* `word32?` — the numeral of an id or an amount: at most 4294967295.
* `size?` — the numeral of a size: one plus sign is allowed before the
  digits, and the number is below 2^64.
-/

namespace FleetOrders.Text

/-- The ASCII digits, `0` to `9`. -/
def isDigit (c : Char) : Bool :=
  '0' ≤ c && c ≤ '9'

/-- The number an ASCII digit stands for. -/
def digitValue (c : Char) : Nat :=
  c.toNat - '0'.toNat

/-- The ASCII digit of a number below ten. -/
def digitChar (n : Nat) : Char :=
  Char.ofNat ('0'.toNat + n)

/-- The numeral of a number: no leading zero, except for zero itself. -/
def digits (n : Nat) : List Char :=
  if n < 10 then [digitChar n] else digits (n / 10) ++ [digitChar (n % 10)]
termination_by n

/-- The numeral of a number as a string. -/
def decimal (n : Nat) : String :=
  String.ofList (digits n)

/-- The number a run of digits stands for. -/
def numeral (cs : List Char) : Nat :=
  cs.foldl (fun v c => 10 * v + digitValue c) 0

/-- The number that a non-empty run of digits stands for, if it is below
`bound`. -/
def numeralBelow? (bound : Nat) (cs : List Char) : Option Nat :=
  if cs ≠ [] ∧ cs.all isDigit ∧ numeral cs < bound then some (numeral cs) else none

/-- A number of the order language: digits that stand for at most
4294967295. -/
def word32? (cs : List Char) : Option UInt32 :=
  (numeralBelow? UInt32.size cs).map UInt32.ofNat

/-- A size: digits that stand for a number below 2^64, after at most one
plus sign. -/
def size? (s : String) : Option Nat :=
  match s.toList with
  | '+' :: cs => numeralBelow? UInt64.size cs
  | cs => numeralBelow? UInt64.size cs

end FleetOrders.Text
