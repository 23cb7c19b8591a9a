/-
FleetOrders.Console.Config — the settings of a console.
-/

namespace FleetOrders

/-- The settings of a console. -/
structure Config where
  /-- How many commands the history keeps. -/
  historySize : Nat
  /-- The key that the history is saved under. -/
  historyKey : String
  /-- How many suggestions a line is given. -/
  maxSuggestions : Nat
  /-- What is shown before the player types. -/
  prompt : String
  /-- Whether colours are shown. -/
  color : Bool
  deriving DecidableEq, Repr

namespace Config

/-- The settings of a console that nobody has set up. -/
def standard : Config where
  historySize := 100
  historyKey := "fleetcmd:command_history"
  maxSuggestions := 10
  prompt := "> "
  color := true

/-- The standard settings without colours. -/
def plain : Config :=
  { standard with color := false }

end Config

end FleetOrders
