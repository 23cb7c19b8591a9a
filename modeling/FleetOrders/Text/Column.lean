/-
FleetOrders.Text.Column — text set in columns, and lists joined by a
separator.

Widths count code points. A text that is wider than its column is never
cut: it pushes what follows to the right.
-/

namespace FleetOrders.Text

/-- The text at the left of a column. -/
def padEnd (width : Nat) (s : String) : String :=
  s ++ String.ofList (List.replicate (width - s.length) ' ')

/-- The text at the right of a column. -/
def padStart (width : Nat) (s : String) : String :=
  String.ofList (List.replicate (width - s.length) ' ') ++ s

/-- The texts in order, with `separator` between neighbours. -/
def joinWith (separator : String) : List String → String
  | [] => ""
  | [s] => s
  | s :: rest => s ++ separator ++ joinWith separator rest

end FleetOrders.Text
