import StudyHall.Idna.MappingTable

/-!
# Mapping of domain characters

A domain name is brought to one spelling before it is cut into labels: capitals become small
letters, characters for compatibility become what they stand for, some are dropped, and some are
not allowed at all.
-/

namespace StudyHall.Idna

open Text

/-- Whether a character stays as it is, so that it may stand in a label. -/
def isKept (c : Char) : Bool :=
  (rowAround? keptRows c.toNat).isSome

/-- What replaces a character, by its code point. -/
def replacement? (n : Nat) : Option (List Nat) :=
  match rowAround? runRows n with
  | some [first, target] => some [target + (n - first)]
  | _ =>
      match alternateRows.findSome? (alternate n) with
      | some m => some [m]
      | none => rowAfter? sequenceRows n
where
  /-- What replaces a character by one row for every second character. -/
  alternate (n : Nat) : List Nat → Option Nat
    | [first, last, target] =>
        if first ≤ n ∧ n ≤ last ∧ (n - first) % 2 = 0 then some (target + (n - first)) else none
    | _ => none

/-- What becomes of a character; nothing at all for one that is not allowed. -/
def mapChar? (c : Char) : Option (List Char) :=
  if isKept c then some [c]
  else if (rowAround? droppedRows c.toNat).isSome then some []
  else (replacement? c.toNat).map fun ns => ns.map Char.ofNat

/-- What becomes of a name; nothing if a character is not allowed. -/
def mapChars? (cs : List Char) : Option (List Char) :=
  (cs.mapM mapChar?).map List.flatten

end StudyHall.Idna
