/-
FleetOrders.Similarity — how well a text matches what was typed.

Scores fall into tiers that never overlap: the same text, a text that
starts with what was typed, a text that holds it elsewhere, and no match.
All comparing is done in lower case.

* `score` — the score of one candidate.
* `ranked` — the candidates that match, best first; equal scores keep
  their order.
-/
import FleetOrders.Text.LowerCase

namespace FleetOrders

namespace Similarity

/-- The score of the same text. -/
def exact : Nat := 1000

/-- The least score of a text that starts with the query. -/
def opening : Nat := 500

/-- The score of a text that holds the query elsewhere. -/
def inside : Nat := 100

/-- What a text of `total` characters gains because the query covers
`matched` of them: less than 100, so that no tier reaches the next. -/
def coverage (matched total : Nat) : Nat :=
  matched * 99 / total

/-- The score of two texts in lower case. -/
def scoreFolded (query candidate : List Char) : Nat :=
  if query = candidate then exact
  else if query.isPrefixOf candidate then opening + coverage query.length candidate.length
  else if query ≠ [] ∧ Text.occursIn query candidate then inside
  else 0

/-- How well the candidate matches the query; zero is no match. -/
def score (query candidate : String) : Nat :=
  scoreFolded (Text.lowerCase query.toList) (Text.lowerCase candidate.toList)

variable {α : Type}

/-- The candidates that match, with their scores, best first. Candidates
of one score keep their order. -/
def ranked (query : String) (key : α → String) (candidates : List α) : List (Nat × α) :=
  ((candidates.map fun c => (score query (key c), c)).filter fun p => 0 < p.1).mergeSort
    fun p q => q.1 ≤ p.1

end Similarity

end FleetOrders
