/-
FleetOrders.CharacterType — the characters a player may join the game as.

`find?` looks for the name of a type anywhere in a text, in any case, and
takes the first type in the order of `all`.
-/
import FleetOrders.Text.Column
import FleetOrders.Text.LowerCase

namespace FleetOrders

/-- A character that a player may join as. -/
inductive CharacterType where
  | empireBuilder
  | merchant
  | pirate
  | artifactCollector
  | berserker
  | apostle
  deriving DecidableEq, Repr

namespace CharacterType

def name : CharacterType → String
  | .empireBuilder => "Empire Builder"
  | .merchant => "Merchant"
  | .pirate => "Pirate"
  | .artifactCollector => "Artifact Collector"
  | .berserker => "Berserker"
  | .apostle => "Apostle"

/-- Every type, in the order in which lists show them. -/
def all : List CharacterType :=
  [.empireBuilder, .merchant, .pirate, .artifactCollector, .berserker, .apostle]

/-- The names of all types as messages list them. -/
def listing : String :=
  Text.joinWith ", " (all.map name)

/-- The first type whose name occurs in the text, in any case. -/
def find? (text : String) : Option CharacterType :=
  let folded := Text.lowerCase text.toList
  all.find? fun t => Text.occursIn (Text.lowerCase t.name.toList) folded

end CharacterType

end FleetOrders
