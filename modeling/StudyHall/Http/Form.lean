import StudyHall.Http.Percent
import StudyHall.Text.Blank

/-!
# Forms in addresses

The part of an address after the question mark is a list of named texts: pieces between `&`, each
cut at its first `=`. Plus signs stand for spaces, escapes are resolved, and what is ill-formed
becomes U+FFFD. Empty pieces do not count.

A form is read against the names that are expected: others are passed over, and an expected name
may not stand twice.
-/

namespace StudyHall.Form

open Text

/-- Characters with spaces for plus signs. -/
def spaces (cs : List Char) : List Char :=
  cs.map fun c => if c = '+' then ' ' else c

/-- A name or a value as it was meant. -/
def component (cs : List Char) : String :=
  Percent.lossy (spaces cs)

/-- What stands before the first `=` and what stands after it. -/
def cut (cs : List Char) : List Char × List Char :=
  (cs.takeWhile (· != '='), (cs.dropWhile (· != '=')).drop 1)

/-- The name and the value of a piece. -/
def pair (piece : List Char) : String × String :=
  (component (cut piece).1, component (cut piece).2)

/-- The named texts of a form, in order. -/
def pairs (cs : List Char) : List (String × String) :=
  ((pieces (· == '&') cs).filter fun p => !p.isEmpty).map pair

/-- The texts under expected names, unless one of these names stands twice. -/
def expected? (names : List String) (given : List (String × String)) :
    Option (List (String × String)) :=
  let known := given.filter fun p => names.contains p.1
  if (known.map Prod.fst).Nodup then some known else none

end StudyHall.Form
