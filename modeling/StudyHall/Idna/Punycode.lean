import StudyHall.Text.Numeral

/-!
# Punycode

Characters beyond ASCII written with letters, digits and hyphens. The ASCII characters come first
and a hyphen after them. The others follow by their code points, each as one number: how many
insertions of earlier places and lower code points are skipped before it. A number has digits of
base 36, the lowest first, and ends with the first digit below a threshold; the thresholds move
with the size of the numbers before.

Writing lists the insertions first (`insertions`) and then their numbers (`insertionDigits`).
Reading is one step for each character of the written form (`Reading.step`), so it needs no bound
on its length; numbers above 32 bits are refused.
-/

namespace StudyHall.Idna

open Text

/-! ## Digits and thresholds -/

/-- The character of a digit: 26 letters, then ten ASCII digits. -/
def punyDigit (d : Nat) : Char :=
  if d < 26 then Char.ofNat (0x61 + d) else Char.ofNat (0x30 + (d - 26))

/-- The value of a digit; letters count in either case. -/
def punyValue? (c : Char) : Option Nat :=
  if 'a' ≤ c ∧ c ≤ 'z' then some (c.toNat - 0x61)
  else if 'A' ≤ c ∧ c ≤ 'Z' then some (c.toNat - 0x41)
  else if '0' ≤ c ∧ c ≤ '9' then some (c.toNat - 0x30 + 26)
  else none

/-- The threshold of the digit at `place`, where places count 36, 72, and so on: at least 1, at
most 26. -/
def threshold (bias place : Nat) : Nat :=
  min 26 (max 1 (place - bias))

theorem threshold_pos (bias place : Nat) : 0 < threshold bias place := by
  unfold threshold
  omega

/-- A number made small by division by 35, and 36 for each division on top of `bias`. -/
def scaleDown (bias delta : Nat) : Nat × Nat :=
  if 455 < delta then scaleDown (bias + 36) (delta / 35) else (bias, delta)
termination_by delta
decreasing_by omega

/-- The bias after the number `delta`, which was the first one or not, with `count` characters
placed so far. -/
def nextBias (delta count : Nat) (isFirst : Bool) : Nat :=
  let halved := if isFirst then delta / 700 else delta / 2
  let (bias, rest) := scaleDown 0 (halved + halved / count)
  bias + 36 * rest / (rest + 38)

/-- The bias before the first number. -/
def firstBias : Nat := 72

/-- The place of the first digit, and the distance to the next. -/
def firstPlace : Nat := 36

/-- The first code point beyond ASCII. -/
def firstPoint : Nat := 128

/-! ## Writing -/

/-- The digits of a number from the one at `place` on. -/
def numberDigits (bias place n : Nat) : List Char :=
  let t := threshold bias place
  if n < t then [punyDigit n]
  else punyDigit (t + (n - t) % (36 - t)) :: numberDigits bias (place + 36) ((n - t) / (36 - t))
termination_by n
decreasing_by
  have hPos := threshold_pos bias place
  have hLe : (n - threshold bias place) / (36 - threshold bias place)
      ≤ n - threshold bias place := Nat.div_le_self _ _
  omega

/-- Where characters beyond ASCII are put in, one after the other: the code point of each, and how
many of the characters before it are there already, in the order in which they are put in. -/
def insertions (cs : List Char) : List (Nat × Nat) :=
  let beyond := cs.zipIdx.filter fun c => firstPoint ≤ c.1.toNat
  let placed := beyond.map fun c =>
    (c.1.toNat, ((cs.take c.2).filter fun b => b.toNat ≤ c.1.toNat).length)
  placed.mergeSort fun x y => x.1 ≤ y.1

/-- The numbers of insertions. The next one possible is that of `point` at `position`, into
`count` characters; an insertion of a higher code point skips all that is left of the places for
the lower ones. -/
def insertionDigits (point position bias count : Nat) (isFirst : Bool) :
    List (Nat × Nat) → List Char
  | [] => []
  | (p, i) :: rest =>
      let skipped := (p - point) * (count + 1) + i - position
      numberDigits bias firstPlace skipped
        ++ insertionDigits p (i + 1) (nextBias skipped (count + 1) isFirst) (count + 1) false rest

/-- Characters in their written form. -/
def encode (cs : List Char) : List Char :=
  let basic := cs.filter fun c => c.toNat < firstPoint
  basic ++ (if basic.isEmpty then [] else ['-'])
    ++ insertionDigits firstPoint 0 firstBias basic.length true (insertions cs)

/-! ## Reading -/

/-- How far the reading has come. -/
structure Reading where
  /-- The characters placed so far. -/
  chars : List Char
  /-- Where the number that is being read began to count. -/
  start : Nat
  /-- Where it has come to. -/
  position : Nat
  /-- The code point of the latest character. -/
  point : Nat
  bias : Nat
  /-- What a digit counts for. -/
  weight : Nat
  /-- The place of the next digit. -/
  place : Nat

/-- One character put where the finished number says. -/
def Reading.insert? (r : Reading) : Option Reading :=
  let count := r.chars.length + 1
  let point := r.point + r.position / count
  let index := r.position % count
  if point.isValidChar then
    some {
      chars := r.chars.insertIdx index (Char.ofNat point)
      start := index + 1
      position := index + 1
      point := point
      bias := nextBias (r.position - r.start) count (r.start == 0)
      weight := 1
      place := firstPlace }
  else none

/-- One digit more. -/
def Reading.step (r : Reading) (c : Char) : Option Reading := do
  let d ← punyValue? c
  let moved := { r with position := r.position + d * r.weight }
  let t := threshold r.bias r.place
  if maxWord32 < moved.position then none
  else if d < t then moved.insert?
  else if maxWord32 < r.weight * (36 - t) then none
  else some { moved with weight := r.weight * (36 - t), place := r.place + 36 }

/-- What stands before the last hyphen, and the digits after it; a hyphen at the very beginning
counts as a digit. -/
def cutAtHyphen (cs : List Char) : List Char × List Char :=
  let digits := (cs.reverse.takeWhile (· != '-')).reverse
  let basic := cs.take (cs.length - digits.length - 1)
  if basic.isEmpty then ([], cs) else (basic, digits)

/-- The characters of a written form; nothing for one that is broken off, that is not made of
digits, or that leaves the code points. -/
def decode? (cs : List Char) : Option (List Char) := do
  let (basic, digits) := cutAtHyphen cs
  if basic.any fun c => firstPoint ≤ c.toNat then none
  else
    let r ← digits.foldlM Reading.step
      { chars := basic, start := 0, position := 0, point := firstPoint, bias := firstBias
        weight := 1, place := firstPlace }
    if r.place = firstPlace then some r.chars else none

end StudyHall.Idna
