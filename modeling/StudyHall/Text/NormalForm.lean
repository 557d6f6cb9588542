import StudyHall.Text.NormalTable

/-!
# Composed normal form

Texts that differ only in how marks are attached to letters have one composed form. It is reached
in three steps: every character is taken apart (`apart`), the marks behind a letter are put in
order (`orderMarks`), and letters are joined with the marks that follow them (`join`). Syllables of
Hangul are taken apart and joined by their number; all else is in tables.

A character whose place in the order of marks is 0 is a *starter*; only a starter takes others in.
A mark reaches the starter before it when no mark of the same or a later place stands between.
-/

namespace StudyHall.Text

/-! ## Hangul -/

/-- The first syllable, and the characters before the first of the three kinds of parts; a
syllable has one of 19 leading parts, one of 21 vowels and none or one of 27 trailing parts. -/
def firstSyllable : Nat := 0xac00

/-- The first leading part. -/
def firstLead : Nat := 0x1100

/-- The first vowel. -/
def firstVowel : Nat := 0x1161

/-- The character before the first trailing part. -/
def beforeTrail : Nat := 0x11a7

/-- How many syllables there are. -/
def syllableCount : Nat := 19 * 21 * 28

/-- The parts of a syllable. -/
def syllableParts? (n : Nat) : Option (List Nat) :=
  if firstSyllable ≤ n ∧ n < firstSyllable + syllableCount then
    let s := n - firstSyllable
    let pair := [firstLead + s / 588, firstVowel + s % 588 / 28]
    some (if s % 28 = 0 then pair else pair ++ [beforeTrail + s % 28])
  else none

/-- The syllable of a leading part and a vowel, or of a syllable without a trailing part and such
a part. -/
def syllable? (a b : Nat) : Option Nat :=
  if firstLead ≤ a ∧ a < firstLead + 19 ∧ firstVowel ≤ b ∧ b < firstVowel + 21 then
    some (firstSyllable + ((a - firstLead) * 21 + (b - firstVowel)) * 28)
  else if firstSyllable ≤ a ∧ a < firstSyllable + syllableCount ∧ (a - firstSyllable) % 28 = 0
      ∧ beforeTrail < b ∧ b < beforeTrail + 28 then
    some (a + (b - beforeTrail))
  else none

/-! ## Taking apart -/

/-- What a character is made of, to the end. -/
def apart (c : Char) : List Char :=
  if c.toNat < 0x80 then [c]
  else
    match syllableParts? c.toNat with
    | some ns => ns.map Char.ofNat
    | none =>
        match rowAfter? decompositionRows c.toNat with
        | some ns => ns.map Char.ofNat
        | none => [c]

/-! ## Order of marks -/

/-- The place of a character in the order of marks, 0 for a starter. -/
def markOrder (c : Char) : Nat :=
  match rowAround? markOrderRows c.toNat with
  | some [_, place] => place
  | _ => 0

/-- A character put before others that are in order: a mark goes behind the marks with an earlier
place, up to the next starter. -/
def placeMark (c : Char) : List Char → List Char
  | [] => [c]
  | d :: ds =>
      if 0 < markOrder d ∧ markOrder d < markOrder c then d :: placeMark c ds else c :: d :: ds

/-- The marks between two starters by their place; marks of one place stay as they are. -/
def orderMarks (cs : List Char) : List Char :=
  cs.foldr placeMark []

/-! ## Joining -/

/-- The one character that two in a row make up. -/
def joined? (a b : Char) : Option Char :=
  match syllable? a.toNat b.toNat with
  | some n => some (Char.ofNat n)
  | none =>
      compositionRows.findSome? fun
        | [m, n, whole] => if m = a.toNat ∧ n = b.toNat then some (Char.ofNat whole) else none
        | _ => none

/-- The character that a starter and one behind it make up, when the marks between, the latest
first, let it through. -/
def joinedPast? (starter : Char) (marks : List Char) (c : Char) : Option Char :=
  match marks with
  | [] => joined? starter c
  | m :: _ => if markOrder m < markOrder c then joined? starter c else none

/-- Joining on from a starter and the marks behind it that it did not take in, latest first. -/
def joinFrom (starter : Char) (marks : List Char) : List Char → List Char
  | [] => starter :: marks.reverse
  | c :: cs =>
      match joinedPast? starter marks c with
      | some whole => joinFrom whole marks cs
      | none =>
          if markOrder c = 0 then starter :: marks.reverse ++ joinFrom c [] cs
          else joinFrom starter (c :: marks) cs

/-- Every starter joined with what it can take in. -/
def join : List Char → List Char
  | [] => []
  | c :: cs => if markOrder c = 0 then joinFrom c [] cs else c :: join cs

/-! ## The form -/

/-- The composed normal form. -/
def normalForm (cs : List Char) : List Char :=
  join (orderMarks (cs.flatMap apart))

/-- Whether characters are their own composed normal form. -/
def isNormal (cs : List Char) : Bool :=
  normalForm cs == cs

end StudyHall.Text
