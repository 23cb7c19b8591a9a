/-
FleetOrders.Console.Help — the reference of orders and console commands.
-/
import FleetOrders.Command.Grammar
import FleetOrders.Text.Column

namespace FleetOrders

open Text (padEnd)

/-- One line about an order: a sample, its shape, what it does. -/
def Grammar.Production.row (p : Grammar.Production) : String :=
  "  " ++ padEnd 12 p.sample ++ " " ++ padEnd 44 p.text ++ " " ++ p.summary ++ "\n"

/-- The commands of the console itself. -/
def consoleHelp : String :=
  "\nConsole:\n" ++
  "  :help            show this reference\n" ++
  "  :history         list sent commands\n" ++
  "  :again [n]       resend the command n steps back (default 1)\n" ++
  "  :clear-history   forget sent commands\n" ++
  "  :state           summarize the current snapshot\n" ++
  "  :check <input>   show parse context, problems and suggestions\n" ++
  "  :quit            leave the console"

/-- All orders, then the commands of the console. -/
def helpText : String :=
  "Orders:\n" ++ String.join (Grammar.productions.map Grammar.Production.row) ++ consoleHelp

end FleetOrders
