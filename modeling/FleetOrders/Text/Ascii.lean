/-
FleetOrders.Text.Ascii — letters compared without regard to ASCII case.

* `upper`, `sameLetter` — one character against another, A to Z only.
* `dropWord?` — the rest of a text after a leading word in any case.

No letter beyond ASCII has a second case here: the order language folds
only the letters it is written in. (`LowerCase` folds all of them.)
-/

namespace FleetOrders.Text

/-- The ASCII capital of an ASCII small letter; all else is itself. -/
def upper (c : Char) : Char :=
  if 'a' ≤ c ∧ c ≤ 'z' then Char.ofNat (c.toNat - 32) else c

/-- Equal, or the two cases of one ASCII letter. -/
def sameLetter (a b : Char) : Bool :=
  upper a == upper b

/-- What follows `word` at the head of the text, whatever the ASCII case
of either; nothing if the text does not start with it. -/
def dropWord? : List Char → List Char → Option (List Char)
  | [], text => some text
  | _ :: _, [] => none
  | w :: word, c :: text => if sameLetter w c then dropWord? word text else none

/-- The text lies at the head of `whole`, character for character. -/
def isHeadOf (text whole : String) : Bool :=
  text.toList.isPrefixOf whole.toList

end FleetOrders.Text
