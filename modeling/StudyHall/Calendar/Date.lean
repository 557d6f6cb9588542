/-!
# Dates

The proleptic Gregorian calendar, with days counted from 1970-01-01.

`daysBefore y` counts the days from 0000-01-01 to the first of January of year `y`. The year of a
day is estimated from the mean length of a year and then corrected by at most one, so that
`daysBefore y ≤ d < daysBefore (y + 1)`. Within a year the month is found by taking off the months
one after the other.
-/

namespace StudyHall.Calendar

/-! ## Years -/

/-- Whether a year has a 29th of February. -/
def isLeap (y : Int) : Bool :=
  y % 4 == 0 && (y % 100 != 0 || y % 400 == 0)

/-- The number of days from 0000-01-01 to the start of a year. -/
def daysBefore (y : Int) : Int :=
  365 * y + (y + 3) / 4 - (y + 99) / 100 + (y + 399) / 400

/-- The number of days from 0000-01-01 to 1970-01-01. -/
def epochDay : Int := 719528

/-- The year that holds a day counted from 0000-01-01. -/
def yearOf (d : Int) : Int :=
  let y := 400 * d / 146097
  if d < daysBefore y then y - 1
  else if daysBefore (y + 1) ≤ d then y + 1
  else y

/-! ## Months -/

/-- The number of days of a month, January being 1. -/
def monthLength (leap : Bool) (month : Nat) : Nat :=
  if month = 2 then (if leap then 29 else 28)
  else if month = 4 ∨ month = 6 ∨ month = 9 ∨ month = 11 then 30
  else 31

/-- The month and the day of month of a day of the year, both counts from 1; `months` are left
from `month` on. -/
def monthFrom (leap : Bool) : Nat → Nat → Nat → Nat × Nat
  | 0, month, rest => (month, rest + 1)
  | months + 1, month, rest =>
      if rest < monthLength leap month then (month, rest + 1)
      else monthFrom leap months (month + 1) (rest - monthLength leap month)

/-- The number of days of the year before a month. -/
def daysBeforeMonth (leap : Bool) : Nat → Nat
  | 0 => 0
  | 1 => 0
  | month + 2 => daysBeforeMonth leap (month + 1) + monthLength leap (month + 1)

/-! ## Dates and day numbers -/

/-- A date: the year, the month from 1 and the day of the month from 1. -/
structure Date where
  year : Int
  month : Nat
  day : Nat
  deriving DecidableEq, Repr

/-- The date of a day counted from 1970-01-01. -/
def Date.ofDay (n : Int) : Date :=
  let d := n + epochDay
  let y := yearOf d
  let md := monthFrom (isLeap y) 11 1 (d - daysBefore y).toNat
  ⟨y, md.1, md.2⟩

/-- Whether the month and the day of the month exist in the year. -/
def Date.isValid (t : Date) : Bool :=
  1 ≤ t.month && t.month ≤ 12 && 1 ≤ t.day && t.day ≤ monthLength (isLeap t.year) t.month

/-- The day counted from 1970-01-01. -/
def Date.toDay (t : Date) : Int :=
  daysBefore t.year + (daysBeforeMonth (isLeap t.year) t.month : Int) + ((t.day : Int) - 1)
    - epochDay

end StudyHall.Calendar
