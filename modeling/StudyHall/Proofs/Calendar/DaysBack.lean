import StudyHall.Proofs.Calendar.DayByDay
import StudyHall.Proofs.Calendar.Later
import StudyHall.Proofs.Calendar.Timestamp

/-!
# Whole days back

Counting back whole days from a time leads to the same time of an earlier day, as long as the years
are representable. There is one exception. From an inserted second the count goes back without
passing it, and so begins at the second that follows; if the inserted second is the last one of its
day, this is midnight, and one day back leads to the first second of the same day.

## Main results

* `after?_back` — the time some whole seconds earlier.
* `day_of_daysBack` — the day of the time some whole days earlier.
* `daysBack_eq_none_iff` — when there is no such time.
-/

namespace StudyHall.Instant

open Calendar

variable {t u : Instant}

/-! ## Counting back -/

/-- The second from which seconds are counted back: the count does not pass an inserted second, so
it begins behind it. -/
def countSecond (t : Instant) : Int :=
  if t.nanos < 1000000000 then t.seconds else t.seconds + 1

/-- The day from which days are counted back. -/
def countDay (t : Instant) : Int :=
  t.countSecond / secondsPerDay

/-- Whether an instant lies in a second that is inserted at the end of its day. -/
def ClosesDay (t : Instant) : Prop :=
  1000000000 ≤ t.nanos ∧ (t.seconds + 1) % secondsPerDay = 0

instance (t : Instant) : Decidable t.ClosesDay :=
  inferInstanceAs (Decidable (_ ∧ _))

theorem countDay_of_closesDay (closes : t.ClosesDay) : t.countDay = t.day + 1 := by
  obtain ⟨inserted, last⟩ := closes
  unfold countDay countSecond day
  rw [if_neg (by omega)]
  unfold secondsPerDay at last ⊢
  omega

theorem countDay_of_not_closesDay (within : ¬ t.ClosesDay) : t.countDay = t.day := by
  unfold ClosesDay secondsPerDay at within
  unfold countDay countSecond day secondsPerDay
  split <;> omega

/-- No time at all later it is the same time. -/
theorem after?_zero (t : Instant) : t.after? (Span.seconds 0) = some t := by
  have bound := t.nanos_lt
  have same := t.of?_self
  have none : (t.nanos : Int) + (Span.seconds 0).nanos = t.nanos := by
    simp [Span.seconds]
  unfold after?
  simp only [none, nanosPerSecond]
  split
  · next ordinary =>
      rw [show t.seconds + (t.nanos : Int) / 1000000000 = t.seconds by omega,
        show ((t.nanos : Int) % 1000000000).toNat = t.nanos by omega, same]
  · next inserted =>
      rw [if_pos (by omega), Int.toNat_natCast, same]

/-- The time some whole seconds earlier. -/
theorem after?_back (t : Instant) {n : Int} (back : 0 < n) :
    t.after? (Span.seconds (-n)) = of? (t.countSecond - n) (t.nanos % 1000000000) := by
  have bound := t.nanos_lt
  have span : (Span.seconds (-n)).nanos = -n * 1000000000 := rfl
  unfold after? countSecond
  simp only [span, nanosPerSecond]
  rw [if_pos (by omega)]
  congr 1
  · split <;> omega
  · omega

theorem of?_eq_none_iff {s : Int} {n : Nat} (ordinary : n < 1000000000) :
    of? s n = none ↔ s < firstSecond ∨ lastSecond < s := by
  have outside : ¬ isValid s n = true ↔ s < firstSecond ∨ lastSecond < s := by
    rw [isValid_iff]
    omega
  unfold of?
  rw [dite_eq_right_iff, ← outside]
  exact forall_congr' fun _ => iff_of_false (by simp) id

/-- The day of the time some whole days earlier. -/
theorem day_of_daysBack {k : Nat} (back : 0 < k)
    (found : t.after? (Span.seconds (-secondsPerDay * k)) = some u) : u.day = t.countDay - k := by
  rw [Int.neg_mul, t.after?_back (by unfold secondsPerDay; omega)] at found
  have seconds := seconds_of_of? found
  unfold day countDay
  rw [seconds]
  unfold secondsPerDay
  omega

/-- The time some whole days earlier is not representable exactly if its day lies before the
representable years. -/
theorem daysBack_eq_none_iff (t : Instant) {k : Nat} (back : 0 < k) :
    t.after? (Span.seconds (-secondsPerDay * k)) = none
      ↔ (Date.ofDay (t.countDay - k)).year < -262143 := by
  have start : secondsPerDay * (daysBefore (-262143) - epochDay) = firstSecond := by decide
  have last : t.countSecond ≤ lastSecond + 1 := by
    obtain ⟨-, last, -⟩ := isValid_iff.mp t.valid
    unfold countSecond
    split <;> omega
  rw [Int.neg_mul, t.after?_back (by unfold secondsPerDay; omega),
    of?_eq_none_iff (by omega), Date.year_ofDay_lt_iff]
  unfold countDay
  unfold secondsPerDay at start ⊢
  unfold lastSecond at last ⊢
  omega

end StudyHall.Instant
