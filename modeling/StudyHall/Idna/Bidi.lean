import StudyHall.Idna.BidiTable

/-!
# Writing direction of labels

In a domain name with a label that is written from right to left, each label has to keep to one
direction, so that labels do not mix on display.
-/

namespace StudyHall.Idna

open Text

/-- The part of a character in the direction of a text. -/
inductive Direction where
  | leftToRight
  | rightToLeft
  | arabicLetter
  | arabicNumber
  | europeanNumber
  | numberSign
  | numberSeparator
  | numberTerminator
  | neutral
  | invisible
  | mark
  | other
  deriving DecidableEq, Repr

/-- The direction with a class number of the table. -/
def Direction.ofClass : Nat → Direction
  | 0 => .leftToRight
  | 1 => .rightToLeft
  | 2 => .arabicLetter
  | 3 => .arabicNumber
  | 4 => .europeanNumber
  | 5 => .numberSign
  | 6 => .numberSeparator
  | 7 => .numberTerminator
  | 8 => .neutral
  | 9 => .invisible
  | 10 => .mark
  | _ => .other

/-- The direction of a character. -/
def directionOf (c : Char) : Direction :=
  match rowAround? directionRows c.toNat with
  | some [_, number] => .ofClass number
  | _ => .leftToRight

/-- Whether a character is a mark, which cannot begin a label. -/
def isMark (c : Char) : Bool :=
  (rowAround? markRows c.toNat).isSome

/-- Whether a label has a character that is written from right to left. -/
def turnsLeft (label : List Char) : Bool :=
  label.any fun c => [.rightToLeft, .arabicLetter, .arabicNumber].contains (directionOf c)

/-- What may stand in a label beside letters and numbers. -/
def Direction.isNeutral (d : Direction) : Bool :=
  [.europeanNumber, .numberSign, .numberSeparator, .numberTerminator, .neutral, .invisible,
    .mark].contains d

/-- The last direction of a label, marks at the end left out. -/
def lastDirection? (ds : List Direction) : Option Direction :=
  (ds.reverse.dropWhile (· == .mark)).head?

/-- Whether a label keeps to one direction: it begins with a letter, holds no letter of the other
direction, ends with a letter or number of its own, and does not mix two kinds of numbers. -/
def keepsDirection (label : List Char) : Bool :=
  let ds := label.map directionOf
  match ds with
  | [] => true
  | .leftToRight :: rest =>
      rest.all (fun d => d == .leftToRight || d.isNeutral)
        && (lastDirection? ds).all fun d => d == .leftToRight || d == .europeanNumber
  | d :: rest =>
      (d == .rightToLeft || d == .arabicLetter)
        && rest.all (fun d =>
          [.rightToLeft, .arabicLetter, .arabicNumber].contains d || d.isNeutral)
        && (lastDirection? ds).any (fun d =>
          [.rightToLeft, .arabicLetter, .europeanNumber, .arabicNumber].contains d)
        && !(rest.contains .europeanNumber && rest.contains .arabicNumber)

end StudyHall.Idna
