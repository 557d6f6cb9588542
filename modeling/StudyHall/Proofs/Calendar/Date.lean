import StudyHall.Calendar.Date

/-!
# Dates and day numbers

The date that is found for a day exists, and its day number is the day: the year that is estimated
is corrected to the one that holds the day, and taking off the months stops in the month that holds
it.

The mean length of a year is 146097 days in 400 years, and the start of a year is never as much as
two days away from where that mean puts it. This is why one year of correction is enough.

## Main results

* `daysBefore_yearOf_le`, `lt_daysBefore_yearOf` — a day lies in the year that is found for it.
* `daysBefore_add_one` — a year has 365 days, or 366 with a 29th of February.
* `monthFrom_spec` — what taking off the months finds.
* `Date.isValid_ofDay`, `Date.toDay_ofDay` — the date of a day exists and names the day.
-/

namespace StudyHall.Calendar

/-! ## Years -/

/-- The start of a year against the mean length of a year, in 400ths of a day. -/
theorem daysBefore_mean (y : Int) :
    146097 * y - 396 ≤ 400 * daysBefore y ∧ 400 * daysBefore y ≤ 146097 * y + 699 := by
  unfold daysBefore
  omega

theorem daysBefore_mono {y z : Int} (h : y ≤ z) : daysBefore y ≤ daysBefore z := by
  unfold daysBefore
  omega

/-- The length of a year. -/
theorem daysBefore_add_one (y : Int) :
    daysBefore (y + 1) = daysBefore y + if isLeap y then 366 else 365 := by
  have four : (y + 1 + 3) / 4 = (y + 3) / 4 + if y % 4 = 0 then 1 else 0 := by omega
  have hundred : (y + 1 + 99) / 100 = (y + 99) / 100 + if y % 100 = 0 then 1 else 0 := by omega
  have cycle : (y + 1 + 399) / 400 = (y + 399) / 400 + if y % 400 = 0 then 1 else 0 := by omega
  have century : y % 100 = 0 → y % 4 = 0 := by omega
  have gregorian : y % 400 = 0 → y % 100 = 0 := by omega
  have leap : isLeap y = true ↔ y % 4 = 0 ∧ (y % 100 ≠ 0 ∨ y % 400 = 0) := by
    simp [isLeap]
  unfold daysBefore
  rw [four, hundred, cycle]
  by_cases h₄ : y % 4 = 0
  · by_cases h₁₀₀ : y % 100 = 0
    · by_cases h₄₀₀ : y % 400 = 0
      · rw [if_pos h₄, if_pos h₁₀₀, if_pos h₄₀₀, if_pos (leap.mpr ⟨h₄, .inr h₄₀₀⟩)]
        omega
      · rw [if_pos h₄, if_pos h₁₀₀, if_neg h₄₀₀, if_neg fun h => (leap.mp h).2.elim (· h₁₀₀) h₄₀₀]
        omega
    · rw [if_pos h₄, if_neg h₁₀₀, if_neg fun h => h₁₀₀ (gregorian h),
        if_pos (leap.mpr ⟨h₄, .inl h₁₀₀⟩)]
      omega
  · rw [if_neg h₄, if_neg fun h => h₄ (century h), if_neg fun h => h₄ (century (gregorian h)),
      if_neg fun h => h₄ (leap.mp h).1]
    omega

/-- A day lies in the year that is found for it, since the estimate is at most one year off. -/
theorem yearOf_spec (d : Int) :
    daysBefore (yearOf d) ≤ d ∧ d < daysBefore (yearOf d + 1) := by
  have previous := daysBefore_mean (400 * d / 146097 - 1)
  have next := daysBefore_mean (400 * d / 146097 + 2)
  unfold yearOf
  simp only
  split
  · next early =>
      rw [Int.sub_add_cancel]
      omega
  · split
    · next late =>
        rw [show 400 * d / 146097 + 1 + 1 = 400 * d / 146097 + 2 by omega]
        omega
    · omega

theorem daysBefore_yearOf_le (d : Int) : daysBefore (yearOf d) ≤ d :=
  (yearOf_spec d).1

theorem lt_daysBefore_yearOf (d : Int) : d < daysBefore (yearOf d + 1) :=
  (yearOf_spec d).2

/-- Days that lie between the starts of two years have a year between them. -/
theorem yearOf_bounds {d y z : Int} (hy : daysBefore y ≤ d) (hz : d < daysBefore (z + 1)) :
    y ≤ yearOf d ∧ yearOf d ≤ z := by
  have start := daysBefore_yearOf_le d
  have stop := lt_daysBefore_yearOf d
  constructor
  · refine Int.not_lt.mp fun before => ?_
    have order := daysBefore_mono (y := yearOf d + 1) (z := y) (by omega)
    omega
  · refine Int.not_lt.mp fun after => ?_
    have order := daysBefore_mono (y := z + 1) (z := yearOf d) (by omega)
    omega

/-! ## Months -/

theorem daysBeforeMonth_add_one (leap : Bool) {month : Nat} (h : 1 ≤ month) :
    daysBeforeMonth leap (month + 1) = daysBeforeMonth leap month + monthLength leap month := by
  obtain ⟨m, rfl⟩ : ∃ m, month = m + 1 := ⟨month - 1, by omega⟩
  rfl

/-- Taking off months from `month` on stops in the month that holds the day: each step moves the
length of a month from the days that are left to the days before the month. -/
theorem monthFrom_spec {leap : Bool} {months month rest : Nat} (positive : 1 ≤ month)
    (inside : daysBeforeMonth leap month + rest < daysBeforeMonth leap (month + months + 1)) :
    month ≤ (monthFrom leap months month rest).1
      ∧ (monthFrom leap months month rest).1 ≤ month + months
      ∧ 1 ≤ (monthFrom leap months month rest).2
      ∧ (monthFrom leap months month rest).2
        ≤ monthLength leap (monthFrom leap months month rest).1
      ∧ daysBeforeMonth leap (monthFrom leap months month rest).1
          + (monthFrom leap months month rest).2
        = daysBeforeMonth leap month + rest + 1 := by
  have following := daysBeforeMonth_add_one leap positive
  induction months generalizing month rest with
  | zero =>
      simp only [monthFrom, Nat.add_zero] at inside ⊢
      omega
  | succ months ih =>
      unfold monthFrom
      by_cases here : rest < monthLength leap month
      · rw [if_pos here]
        simp only
        omega
      · rw [if_neg here]
        have inside' : daysBeforeMonth leap (month + 1) + (rest - monthLength leap month)
            < daysBeforeMonth leap (month + 1 + months + 1) := by
          rw [show month + 1 + months + 1 = month + (months + 1) + 1 by omega]
          omega
        have found := ih (by omega) inside' (daysBeforeMonth_add_one leap (by omega))
        omega

theorem monthLength_le (leap : Bool) (month : Nat) : monthLength leap month ≤ 31 := by
  unfold monthLength
  split
  · cases leap <;> decide
  · split <;> decide

/-- The days of the twelve months make up the year. -/
theorem daysBeforeMonth_thirteen (leap : Bool) :
    daysBeforeMonth leap 13 = if leap then 366 else 365 := by
  cases leap <;> rfl

/-! ## Dates -/

namespace Date

theorem isValid_iff {t : Date} :
    t.isValid = true ↔ 1 ≤ t.month ∧ t.month ≤ 12 ∧ 1 ≤ t.day
      ∧ t.day ≤ monthLength (isLeap t.year) t.month := by
  simp [isValid, and_assoc]

/-- Month and day of a date have two digits at most. -/
theorem month_day_lt {t : Date} (valid : t.isValid = true) : t.month < 100 ∧ t.day < 100 := by
  obtain ⟨-, monthLast, -, dayLast⟩ := isValid_iff.mp valid
  have inMonth := monthLength_le (isLeap t.year) t.month
  omega

/-- What the date of a day consists of. -/
theorem ofDay_spec (n : Int) :
    (ofDay n).year = yearOf (n + epochDay) ∧ 1 ≤ (ofDay n).month ∧ (ofDay n).month ≤ 12
      ∧ 1 ≤ (ofDay n).day ∧ (ofDay n).day ≤ monthLength (isLeap (ofDay n).year) (ofDay n).month
      ∧ daysBefore (ofDay n).year
          + (daysBeforeMonth (isLeap (ofDay n).year) (ofDay n).month : Int) + (ofDay n).day
        = n + epochDay + 1 := by
  have start := daysBefore_yearOf_le (n + epochDay)
  have stop := lt_daysBefore_yearOf (n + epochDay)
  have length := daysBefore_add_one (yearOf (n + epochDay))
  have year := daysBeforeMonth_thirteen (isLeap (yearOf (n + epochDay)))
  have inside : daysBeforeMonth (isLeap (yearOf (n + epochDay))) 1
      + (n + epochDay - daysBefore (yearOf (n + epochDay))).toNat
      < daysBeforeMonth (isLeap (yearOf (n + epochDay))) (1 + 11 + 1) := by
    rw [year]
    simp only [daysBeforeMonth]
    split at length <;> simp_all <;> omega
  obtain ⟨first, last, day, dayLast, count⟩ := monthFrom_spec (by decide) inside
  refine ⟨rfl, first, last, day, dayLast, ?_⟩
  simp only [ofDay]
  simp only [daysBeforeMonth] at count
  omega

/-- The date of a day exists. -/
theorem isValid_ofDay (n : Int) : (ofDay n).isValid = true := by
  obtain ⟨-, first, last, day, dayLast, -⟩ := ofDay_spec n
  simp [isValid, first, last, day, dayLast]

/-- The date of a day names the day. -/
theorem toDay_ofDay (n : Int) : (ofDay n).toDay = n := by
  obtain ⟨-, -, -, -, -, count⟩ := ofDay_spec n
  unfold toDay
  omega

end Date

end StudyHall.Calendar
