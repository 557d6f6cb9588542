import StudyHall.Calendar.Instant

/-!
# Times a span later

An inserted second makes the seconds of a time that is counted back from it one more than the span
says, since the count does not pass it a second time. Otherwise seconds are added as they are.

## Main results

* `Instant.seconds_le_of_after?` — no span that leads on leads back.
* `Instant.seconds_of_after?_seconds` — the seconds of a time some whole seconds later.
-/

namespace StudyHall

namespace Instant

variable {t later : Instant}

theorem nanos_lt (t : Instant) : t.nanos < 2000000000 := by
  have valid := t.valid
  simp only [isValid, Bool.and_eq_true, Bool.or_eq_true, decide_eq_true_eq, beq_iff_eq] at valid
  omega

theorem seconds_of_of? {seconds : Int} {nanos : Nat} (found : of? seconds nanos = some t) :
    t.seconds = seconds := by
  unfold of? at found
  split at found
  · cases found
    rfl
  · cases found

/-- The seconds of a time a span later: what is carried over from the nanoseconds is added, less
the inserted second if the span leads out of it. -/
theorem seconds_of_after? {span : Span} (found : t.after? span = some later) :
    ((t.nanos < 1000000000 ∨ (t.nanos + span.nanos) / nanosPerSecond < 1)
        ∧ later.seconds = t.seconds + (t.nanos + span.nanos) / nanosPerSecond)
      ∨ (1000000000 ≤ t.nanos ∧ 1 ≤ (t.nanos + span.nanos) / nanosPerSecond
        ∧ later.seconds = t.seconds + (t.nanos + span.nanos) / nanosPerSecond - 1) := by
  simp only [after?] at found
  split at found
  · next ordinary => exact .inl ⟨ordinary, seconds_of_of? found⟩
  · next inserted =>
      have carried : 1000000000 ≤ t.nanos ∧ 1 ≤ (t.nanos + span.nanos) / nanosPerSecond := by
        omega
      refine .inr ⟨carried.1, carried.2, ?_⟩
      split at found
      · next one =>
          have same := seconds_of_of? found
          omega
      · exact seconds_of_of? found

/-- No span that leads on leads back. -/
theorem seconds_le_of_after? {span : Span} (found : t.after? span = some later)
    (forward : 0 ≤ span.nanos) : t.seconds ≤ later.seconds := by
  have carry : 0 ≤ (t.nanos + span.nanos) / nanosPerSecond :=
    Int.ediv_nonneg (by omega) (by decide)
  rcases seconds_of_after? found with ⟨-, counted⟩ | ⟨-, one, counted⟩
  · omega
  · omega

/-- The seconds of a time some whole seconds later are as many more, or one more than that if the
count goes back from an inserted second. -/
theorem seconds_of_after?_seconds {n : Int} (found : t.after? (Span.seconds n) = some later) :
    later.seconds = t.seconds + n ∨ n < 0 ∧ later.seconds = t.seconds + n + 1 := by
  have bound := t.nanos_lt
  have carry : ((t.nanos : Int) + (Span.seconds n).nanos) / nanosPerSecond
      = n + t.nanos / nanosPerSecond := by
    show ((t.nanos : Int) + n * nanosPerSecond) / nanosPerSecond = _
    rw [Int.add_mul_ediv_right _ _ (by decide), Int.add_comm]
  rcases seconds_of_after? found with ⟨ordinary, counted⟩ | ⟨inserted, one, counted⟩
  · rw [carry] at ordinary counted
    unfold nanosPerSecond at ordinary counted
    omega
  · rw [carry] at one counted
    unfold nanosPerSecond at one counted
    omega

end Instant

end StudyHall
