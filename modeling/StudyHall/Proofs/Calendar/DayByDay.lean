import Mathlib.Data.List.Chain
import Mathlib.Logic.Function.Iterate
import StudyHall.Calendar.Instant
import StudyHall.Proofs.Calendar.Date

/-!
# Dates day by day

The rule of the calendar for the day after a date looks at the length of a month and at the twelve
months of a year and counts nothing from any epoch. The dates that are found for day numbers follow
each other by this rule, in both directions without end, and the day number 0 is 1970-01-01. So the
date of a day is the one that is reached from 1970-01-01 by going on, or back, day by day.

Between dates that exist and day numbers there is no gap and no overlap: a date is found again from
its day number, since a year and then a month are determined by the days that lie before them.

## Main results

* `ofDay_toDay` — a date that exists is the date of its day number.
* `ofDay_add_one` — the date of the next day is the next date.
* `runsUpTo_ofDay` — the dates of consecutive days are consecutive.
* `Instant.isOn_iff` — the date of an instant, counted day by day.
-/

namespace StudyHall.Calendar.Date

/-! ## The rule for the next day -/

/-- The day after a date. -/
def next (t : Date) : Date :=
  if t.day < monthLength (isLeap t.year) t.month then ⟨t.year, t.month, t.day + 1⟩
  else if t.month < 12 then ⟨t.year, t.month + 1, 1⟩
  else ⟨t.year + 1, 1, 1⟩

/-- The date from which days are counted. -/
def epoch : Date := ⟨1970, 1, 1⟩

/-- Whether one date is some days after another one, or before it for a negative number. -/
def IsDaysAfter (e d : Date) (k : Int) : Prop :=
  next^[k.toNat] d = next^[(-k).toNat] e

/-- Dates that exist, each the day after the one before it, the last of them a given one. -/
structure RunsUpTo (last : Date) (dates : List Date) : Prop where
  valid : ∀ d ∈ dates, d.isValid = true
  consecutive : dates.IsChain fun d e => e = d.next
  ends : dates.getLast? = some last

/-! ## Dates and their day numbers -/

/-- The days before a later month are those before the month and those of it, at least. -/
theorem daysBeforeMonth_add_le (leap : Bool) {m k : Nat} (first : 1 ≤ m) (later : m < k) :
    daysBeforeMonth leap m + monthLength leap m ≤ daysBeforeMonth leap k := by
  induction k with
  | zero => cases later
  | succ k ih =>
      rw [daysBeforeMonth_add_one leap (by omega)]
      by_cases same : m = k
      · rw [same]
      · have before := ih (by omega)
        omega

/-- The months of a year lead to the start of the next one. -/
theorem daysBefore_add_months (y : Int) :
    daysBefore (y + 1) = daysBefore y + daysBeforeMonth (isLeap y) 13 := by
  rw [daysBefore_add_one, daysBeforeMonth_thirteen]
  split <;> rfl

/-- A date lies within its year. -/
theorem daysBefore_le_toDay {t : Date} (valid : t.isValid = true) :
    daysBefore t.year ≤ t.toDay + epochDay ∧ t.toDay + epochDay < daysBefore (t.year + 1) := by
  obtain ⟨first, last, day, dayLast⟩ := isValid_iff.mp valid
  have inYear := daysBeforeMonth_add_le (isLeap t.year) first (k := 13) (by omega)
  rw [daysBefore_add_months]
  unfold toDay
  omega

/-- A date that exists is the date of its day number. -/
theorem ofDay_toDay {t : Date} (valid : t.isValid = true) : ofDay t.toDay = t := by
  obtain ⟨lower, upper⟩ := daysBefore_le_toDay valid
  obtain ⟨first, last, day, dayLast⟩ := isValid_iff.mp valid
  obtain ⟨yearFound, first', last', day', dayLast', count⟩ := ofDay_spec t.toDay
  have year : (ofDay t.toDay).year = t.year := by
    have bounds := yearOf_bounds lower upper
    omega
  rw [year] at dayLast' count
  have total : t.toDay + epochDay + 1
      = daysBefore t.year + (daysBeforeMonth (isLeap t.year) t.month : Int) + t.day := by
    unfold toDay
    omega
  -- Of two months the later one has all days of the earlier one before it.
  have month : (ofDay t.toDay).month = t.month := by
    rcases Nat.lt_trichotomy (ofDay t.toDay).month t.month with earlier | same | later
    · have gap := daysBeforeMonth_add_le (isLeap t.year) first' earlier
      omega
    · exact same
    · have gap := daysBeforeMonth_add_le (isLeap t.year) first later
      omega
  rw [month] at count
  have dayFound : (ofDay t.toDay).day = t.day := by omega
  calc ofDay t.toDay
      = ⟨(ofDay t.toDay).year, (ofDay t.toDay).month, (ofDay t.toDay).day⟩ := rfl
    _ = t := by rw [year, month, dayFound]

theorem isValid_next {t : Date} (valid : t.isValid = true) : t.next.isValid = true := by
  obtain ⟨first, last, day, dayLast⟩ := isValid_iff.mp valid
  have nonempty (leap : Bool) (m : Nat) : 1 ≤ monthLength leap m := by
    unfold monthLength
    split
    · cases leap <;> decide
    · split <;> decide
  unfold next
  rw [isValid_iff]
  split
  · next within => exact ⟨first, last, by simp, within⟩
  · split
    · next inYear => exact ⟨by simp, inYear, Nat.le_refl 1, nonempty _ _⟩
    · exact ⟨Nat.le_refl 1, show 1 ≤ 12 by decide, Nat.le_refl 1, nonempty _ _⟩

/-- The day after a date has the next day number. -/
theorem toDay_next {t : Date} (valid : t.isValid = true) : t.next.toDay = t.toDay + 1 := by
  obtain ⟨first, last, day, dayLast⟩ := isValid_iff.mp valid
  unfold next
  split
  · simp only [toDay]
    omega
  · next lastDay =>
      have length : t.day = monthLength (isLeap t.year) t.month := by omega
      split
      · simp only [toDay]
        rw [daysBeforeMonth_add_one _ first]
        omega
      · next lastMonth =>
          have december : t.month = 12 := by omega
          have year := daysBefore_add_months t.year
          have months : daysBeforeMonth (isLeap t.year) 13
              = daysBeforeMonth (isLeap t.year) 12 + monthLength (isLeap t.year) 12 := rfl
          have january : daysBeforeMonth (isLeap (t.year + 1)) 1 = 0 := rfl
          rw [december] at length
          simp only [toDay, december, january]
          omega

/-- The date of the next day is the next date. -/
theorem ofDay_add_one (n : Int) : ofDay (n + 1) = (ofDay n).next := by
  have following : (ofDay n).next.toDay = n + 1 := by
    rw [toDay_next (isValid_ofDay n), toDay_ofDay]
  rw [← following, ofDay_toDay (isValid_next (isValid_ofDay n))]

theorem iterate_next_ofDay (n : Int) (k : Nat) : next^[k] (ofDay n) = ofDay (n + k) := by
  induction k with
  | zero => rw [Function.iterate_zero_apply, Int.natCast_zero, Int.add_zero]
  | succ k ih =>
      rw [Function.iterate_succ_apply', ih, ← ofDay_add_one, Int.natCast_succ, Int.add_assoc]

theorem ofDay_inj {m n : Int} : ofDay m = ofDay n ↔ m = n := by
  constructor
  · intro same
    rw [← toDay_ofDay m, same, toDay_ofDay]
  · rintro rfl
    rfl

theorem ofDay_zero : ofDay 0 = epoch := by
  decide

/-- A day lies in an earlier year if it lies before the start of the year. -/
theorem year_ofDay_lt_iff {n y : Int} : (ofDay n).year < y ↔ n + epochDay < daysBefore y := by
  have year : (ofDay n).year = yearOf (n + epochDay) := rfl
  have start := daysBefore_yearOf_le (n + epochDay)
  have stop := lt_daysBefore_yearOf (n + epochDay)
  rw [year]
  constructor
  · intro earlier
    have order := daysBefore_mono (y := yearOf (n + epochDay) + 1) (z := y) (by omega)
    omega
  · intro before
    refine Int.not_le.mp fun later => ?_
    have order := daysBefore_mono later
    omega

/-! ## Days after a date -/

theorem isDaysAfter_ofDay {m n k : Int} : (ofDay m).IsDaysAfter (ofDay n) k ↔ m = n + k := by
  unfold IsDaysAfter
  rw [iterate_next_ofDay, iterate_next_ofDay, ofDay_inj]
  omega

/-- Some days before the date of a day lies the date of an earlier day. -/
theorem iterate_next_eq_ofDay {d : Date} (valid : d.isValid = true) {k : Nat} {n : Int} :
    next^[k] d = ofDay n ↔ d = ofDay (n - k) := by
  rw [← ofDay_toDay valid, iterate_next_ofDay, ofDay_inj, ofDay_inj]
  omega

/-- The dates of the days up to one, as many as are asked for. -/
theorem runsUpTo_ofDay (last : Int) (n : Nat) :
    RunsUpTo (ofDay last) ((List.range (n + 1)).reverse.map fun k : Nat => ofDay (last - k)) := by
  induction n with
  | zero =>
      refine ⟨fun d mem => ?_, List.isChain_singleton _, ?_⟩
      · obtain ⟨k, -, rfl⟩ := List.mem_map.mp mem
        exact isValid_ofDay _
      · simp
  | succ n ih =>
      have step : (List.range (n + 1 + 1)).reverse.map (fun k : Nat => ofDay (last - k))
          = ofDay (last - (n + 1 : Nat))
            :: (List.range (n + 1)).reverse.map fun k : Nat => ofDay (last - k) := by
        rw [List.range_succ, List.reverse_append]
        rfl
      have second : (List.range (n + 1)).reverse.map (fun k : Nat => ofDay (last - k))
          = ofDay (last - n) :: (List.range n).reverse.map fun k : Nat => ofDay (last - k) := by
        rw [List.range_succ, List.reverse_append]
        rfl
      have following : ofDay (last - n) = (ofDay (last - (n + 1 : Nat))).next := by
        rw [← ofDay_add_one]
        congr 1
        omega
      obtain ⟨valid, consecutive, ends⟩ := ih
      rw [step]
      refine ⟨List.forall_mem_cons.mpr ⟨isValid_ofDay _, valid⟩, ?_, ?_⟩
      · rw [second] at consecutive ⊢
        exact List.isChain_cons_cons.mpr ⟨following, consecutive⟩
      · rw [second] at ends ⊢
        rw [List.getLast?_cons_cons]
        exact ends

end StudyHall.Calendar.Date

namespace StudyHall.Instant

open Calendar

/-- Whether a date is that of an instant: the seconds of the instant have led to it day by day. -/
def IsOn (t : Instant) (d : Date) : Prop :=
  d.isValid = true ∧ d.IsDaysAfter Date.epoch (t.seconds / secondsPerDay)

/-- The date of an instant, counted day by day, is the date of its day. -/
theorem isOn_iff {t : Instant} {d : Date} : t.IsOn d ↔ d = Date.ofDay t.day := by
  unfold IsOn
  constructor
  · rintro ⟨valid, after⟩
    rw [← Date.ofDay_toDay valid, ← Date.ofDay_zero, Date.isDaysAfter_ofDay] at after
    rw [← Date.ofDay_toDay valid, after, Int.zero_add]
    rfl
  · rintro rfl
    refine ⟨Date.isValid_ofDay _, ?_⟩
    rw [← Date.ofDay_zero, Date.isDaysAfter_ofDay, Int.zero_add]
    rfl

end StudyHall.Instant
