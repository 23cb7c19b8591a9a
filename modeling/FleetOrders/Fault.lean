/-
FleetOrders.Fault — what goes wrong in the console itself, as against what
a player may get wrong in an order.

* `Inconsistency` — a snapshot names a world that it does not hold.
* `Fault.Cause` — the kinds of fault; `Cause.message` is their wording.
* `Fault` — a cause, and where it arose if that is known.
-/
import FleetOrders.Ids

namespace FleetOrders

/-- A snapshot names a world that it does not hold. -/
inductive Inconsistency where
  /-- A fleet is stationed at such a world. -/
  | danglingWorld (fleet : FleetId) (world : WorldId)
  /-- Such a world is to be looked up. -/
  | missingWorld (world : WorldId)
  deriving DecidableEq, Repr

def Inconsistency.message : Inconsistency → String
  | .danglingWorld fleet world =>
    fleet.text ++ " is stationed at " ++ world.text ++ ", which is not in the snapshot"
  | .missingWorld world => world.text ++ " is not in the snapshot"

namespace Fault

/-- Why an operation of the console failed. -/
inductive Cause where
  | inconsistentState (what : Inconsistency)
  /-- Bytes are not what they should encode. -/
  | serialization (detail : String)
  /-- The operating system refused. -/
  | io (detail : String)
  /-- A store refused. -/
  | store (detail : String)
  | internal (detail : String)
  deriving DecidableEq, Repr

def Cause.message : Cause → String
  | .inconsistentState what => "inconsistent game state: " ++ what.message
  | .serialization detail => "serialization error: " ++ detail
  | .io detail => "I/O error: " ++ detail
  | .store detail => "store error: " ++ detail
  | .internal detail => "internal error: " ++ detail

/-- Where a fault arose: the name of what was being read, if it has one. -/
structure Setting where
  source : Option String
  deriving DecidableEq, Repr

def Setting.message (s : Setting) : String :=
  match s.source with
  | some name => "in " ++ name
  | none => ""

end Fault

/-- A cause, and the setting if it is known. -/
structure Fault where
  cause : Fault.Cause
  setting : Option Fault.Setting
  deriving DecidableEq, Repr

namespace Fault

/-- A fault in no particular setting. -/
def ofCause (cause : Cause) : Fault :=
  ⟨cause, none⟩

/-- The same fault, met while reading the named source. -/
def inSource (f : Fault) (name : String) : Fault :=
  { f with setting := some ⟨some name⟩ }

/-- The wording of a fault does not tell its setting. -/
def message (f : Fault) : String :=
  f.cause.message

def danglingWorld (fleet : FleetId) (world : WorldId) : Fault :=
  ofCause (.inconsistentState (.danglingWorld fleet world))

def missingWorld (world : WorldId) : Fault :=
  ofCause (.inconsistentState (.missingWorld world))

def serialization (detail : String) : Fault :=
  ofCause (.serialization detail)

def io (detail : String) : Fault :=
  ofCause (.io detail)

def store (detail : String) : Fault :=
  ofCause (.store detail)

end Fault

end FleetOrders
