import StudyHall.Calendar.Instant
import StudyHall.Text.Blank
import StudyHall.Text.Numeral

/-!
# Timestamps

The written form of instants and dates after RFC 3339, and two readers.

* `Instant.toText` writes UTC with `Z` and the fewest of 0, 3, 6 or 9 places that are exact. A
  year outside 0 to 9999 carries its sign.
* `Instant.parseStrict?` reads the grammar of RFC 3339 and nothing else.
* `Instant.parse?` reads what documents carry: blanks between the parts, one-digit months, signed
  years, `UTC` for the zone and a zone without its colon are accepted too.

Both readers accept a 60th second as an inserted one and keep nine places of a fraction.
-/

namespace StudyHall

open Calendar Text

/-! ## Writing -/

/-- A year: four digits, or a sign and at least four digits outside 0 to 9999. -/
def Calendar.yearDigits (y : Int) : List Char :=
  if 0 ≤ y ∧ y ≤ 9999 then fixedDigits 4 y.toNat
  else (if y < 0 then '-' else '+') :: paddedDigits 4 y.natAbs

/-- A date as year, month and day. -/
def Calendar.Date.toChars (t : Date) : List Char :=
  yearDigits t.year ++ '-' :: fixedDigits 2 t.month ++ '-' :: fixedDigits 2 t.day

/-- A date as text. -/
def Calendar.Date.toText (t : Date) : String :=
  String.ofList t.toChars

/-- The fraction of a second in the fewest of 0, 3, 6 or 9 places, with its point. -/
def Calendar.fractionDigits (nanos : Nat) : List Char :=
  if nanos = 0 then []
  else if nanos % 1000000 = 0 then '.' :: fixedDigits 3 (nanos / 1000000)
  else if nanos % 1000 = 0 then '.' :: fixedDigits 6 (nanos / 1000)
  else '.' :: fixedDigits 9 nanos

/-- An instant as date, time of day and `Z`. -/
def Instant.toChars (t : Instant) : List Char :=
  let inDay := (t.seconds % secondsPerDay).toNat
  let second := inDay % 60 + t.nanos / 1000000000
  (Date.ofDay t.day).toChars ++ 'T' :: fixedDigits 2 (inDay / 3600)
    ++ ':' :: fixedDigits 2 (inDay / 60 % 60) ++ ':' :: fixedDigits 2 second
    ++ fractionDigits (t.nanos % 1000000000) ++ ['Z']

/-- An instant as text. -/
def Instant.toText (t : Instant) : String :=
  String.ofList t.toChars

/-! ## From fields to instants -/

/-- The fields of a written timestamp; the zone in minutes east of UTC. -/
structure Calendar.Fields where
  date : Date
  hour : Nat
  minute : Nat
  second : Nat
  nanos : Nat
  zone : Int

/-- The instant that fields name, if all of them are in range, the local date included. -/
def Calendar.Fields.instant? (f : Fields) : Option Instant :=
  if f.date.isValid && -262143 ≤ f.date.year && f.date.year ≤ 262142
      && f.hour ≤ 23 && f.minute ≤ 59 && f.second ≤ 60 && f.zone.natAbs < 1440 then
    let inDay : Nat := 3600 * f.hour + 60 * f.minute + min f.second 59
    Instant.of? (secondsPerDay * f.date.toDay + inDay - 60 * f.zone)
      (f.nanos + if f.second = 60 then 1000000000 else 0)
  else none

/-! ## Reading runs of digits -/

/-- The value of a run of ASCII digits. -/
def Calendar.valueOf (ds : List Char) : Nat :=
  digitsValue (ds.filterMap digitValue?)

/-- From one to `most` digits in front, their value and what follows. -/
def Calendar.takeNumber? (most : Nat) (cs : List Char) : Option (Nat × List Char) :=
  let ds := (cs.take most).takeWhile isDigit
  if ds.isEmpty then none else some (valueOf ds, cs.drop ds.length)

/-- Exactly `width` digits in front, their value and what follows. -/
def Calendar.takeExactly? (width : Nat) (cs : List Char) : Option (Nat × List Char) :=
  let ds := (cs.take width).takeWhile isDigit
  if ds.length = width then some (valueOf ds, cs.drop width) else none

/-- A given character in front, and what follows. -/
def Calendar.skip? (p : Char → Bool) : List Char → Option (List Char)
  | c :: cs => if p c then some cs else none
  | [] => none

/-- A fraction after its point: nanoseconds from its first nine digits; further digits are
dropped. -/
def Calendar.takeFraction? (cs : List Char) : Option (Nat × List Char) :=
  let ds := cs.takeWhile isDigit
  if ds.isEmpty then none
  else
    let kept := ds.take 9
    some (valueOf kept * Nat.pow 10 (9 - kept.length), cs.drop ds.length)

/-- A fraction if there is a point, and otherwise nothing. -/
def Calendar.takeOptionalFraction? : List Char → Option (Nat × List Char)
  | '.' :: cs => takeFraction? cs
  | cs => some (0, cs)

/-- The sign of a zone: plus, minus, or the typographic minus. -/
def Calendar.takeSign? : List Char → Option (Bool × List Char)
  | '+' :: cs => some (false, cs)
  | '-' :: cs => some (true, cs)
  | '\u2212' :: cs => some (true, cs)
  | _ => none

/-- A zone as minutes east of UTC, what separates hours and minutes being dropped by `gap?`. -/
def Calendar.takeZone? (gap? : List Char → Option (List Char)) (cs : List Char) :
    Option (Int × List Char) :=
  match cs with
  | 'Z' :: rest => some (0, rest)
  | 'z' :: rest => some (0, rest)
  | _ => do
      let (west, cs) ← takeSign? cs
      let (hours, cs) ← takeExactly? 2 cs
      let cs ← gap? cs
      let (minutes, cs) ← takeExactly? 2 cs
      if minutes ≤ 59 then
        let zone : Int := 60 * hours + minutes
        some (if west then -zone else zone, cs)
      else none

/-! ## The strict reader -/

/-- The instant of exactly `YYYY-MM-DD`, `T` or a space, `HH:MM:SS`, a fraction if there is one,
and a zone. -/
def Instant.ofStrictChars? (cs : List Char) : Option Instant := do
  let (year, cs) ← takeExactly? 4 cs
  let cs ← skip? (· == '-') cs
  let (month, cs) ← takeExactly? 2 cs
  let cs ← skip? (· == '-') cs
  let (day, cs) ← takeExactly? 2 cs
  let cs ← skip? (fun c => c == 'T' || c == 't' || c == ' ') cs
  let (hour, cs) ← takeExactly? 2 cs
  let cs ← skip? (· == ':') cs
  let (minute, cs) ← takeExactly? 2 cs
  let cs ← skip? (· == ':') cs
  let (second, cs) ← takeExactly? 2 cs
  let (nanos, cs) ← takeOptionalFraction? cs
  let (zone, cs) ← takeZone? (skip? (· == ':')) cs
  if cs.isEmpty then
    Fields.instant? ⟨⟨year, month, day⟩, hour, minute, second, nanos, zone⟩
  else none

/-- The instant that a text denotes in the grammar of RFC 3339. -/
def Instant.parseStrict? (s : String) : Option Instant :=
  Instant.ofStrictChars? s.toList

/-! ## The lenient reader -/

/-- Characters from the first that is not blank. -/
def Calendar.skipBlanks (cs : List Char) : List Char :=
  cs.dropWhile isBlank

/-- A year: any number of digits after a sign, at most four without one. -/
def Calendar.takeYear? (cs : List Char) : Option (Int × List Char) :=
  match skipBlanks cs with
  | '-' :: rest => (takeNumber? rest.length rest).map fun p => (-(p.1 : Int), p.2)
  | '+' :: rest => (takeNumber? rest.length rest).map fun p => ((p.1 : Int), p.2)
  | rest => (takeNumber? 4 rest).map fun p => ((p.1 : Int), p.2)

/-- At most two digits after blanks. -/
def Calendar.takePart? (cs : List Char) : Option (Nat × List Char) :=
  takeNumber? 2 (skipBlanks cs)

/-- A zone: `UTC` in any case, or a zone with any colons and blanks between hours and minutes. -/
def Calendar.takeLooseZone? (cs : List Char) : Option (Int × List Char) :=
  match cs with
  | u :: t :: c :: rest =>
      if (u == 'U' || u == 'u') && (t == 'T' || t == 't') && (c == 'C' || c == 'c') then
        some (0, rest)
      else takeZone? (fun cs => some (cs.dropWhile fun c => c == ':' || isBlank c)) cs
  | _ => takeZone? (fun cs => some (cs.dropWhile fun c => c == ':' || isBlank c)) cs

/-- The instant that characters denote in the lenient grammar. -/
def Instant.ofChars? (cs : List Char) : Option Instant := do
  let (year, cs) ← takeYear? cs
  let cs ← skip? (· == '-') (skipBlanks cs)
  let (month, cs) ← takePart? cs
  let cs ← skip? (· == '-') (skipBlanks cs)
  let (day, cs) ← takePart? cs
  let cs ← skip? (fun c => c == 'T' || c == 't' || c == ' ') cs
  let (hour, cs) ← takePart? cs
  let cs ← skip? (· == ':') (skipBlanks cs)
  let (minute, cs) ← takePart? cs
  let cs ← skip? (· == ':') (skipBlanks cs)
  let (second, cs) ← takePart? cs
  let (nanos, cs) ← takeOptionalFraction? cs
  let (zone, cs) ← takeLooseZone? (skipBlanks cs)
  if (skipBlanks cs).isEmpty then
    Fields.instant? ⟨⟨year, month, day⟩, hour, minute, second, nanos, zone⟩
  else none

/-- The instant that a text denotes in the lenient grammar. -/
def Instant.parse? (s : String) : Option Instant :=
  Instant.ofChars? s.toList

end StudyHall
