/-
FleetOrders.Verdict — what is said about one command.

Errors make a command invalid; warnings and suggestions never do. Each
list keeps the order in which its messages were found.
-/

namespace FleetOrders

/-- The errors, warnings and suggestions about a command. -/
structure Verdict where
  errors : List String
  warnings : List String
  suggestions : List String
  deriving DecidableEq, Repr

namespace Verdict

/-- The verdict that says nothing. -/
def valid : Verdict :=
  ⟨[], [], []⟩

/-- The verdict of one error. -/
def invalid (message : String) : Verdict :=
  ⟨[message], [], []⟩

/-- The verdict with one more error. -/
def addError (v : Verdict) (message : String) : Verdict :=
  { v with errors := v.errors ++ [message] }

/-- The verdict with one more warning. -/
def addWarning (v : Verdict) (message : String) : Verdict :=
  { v with warnings := v.warnings ++ [message] }

/-- The verdict with one more suggestion. -/
def addSuggestion (v : Verdict) (message : String) : Verdict :=
  { v with suggestions := v.suggestions ++ [message] }

/-- No error was found. -/
def isValid (v : Verdict) : Bool :=
  v.errors.isEmpty

/-- A warning was found. -/
def hasWarnings (v : Verdict) : Bool :=
  !v.warnings.isEmpty

/-- Messages on lines of their own under one label. -/
def block (label : String) (messages : List String) : String :=
  String.join (messages.map fun m => "\n  " ++ label ++ ": " ++ m)

/-- The verdict as text: the outcome, then every message. -/
def text (v : Verdict) : String :=
  (if v.isValid then "valid" else "invalid") ++
    block "error" v.errors ++ block "warning" v.warnings ++
    block "hint" v.suggestions

end Verdict

end FleetOrders
