import StudyHall.Calendar.Date

/-!
# Instants

A point of time in UTC: whole seconds since 1970-01-01T00:00:00Z and nanoseconds, within the years
-262143 to 262142. A second that is inserted into the last minute of a day is the second before
it with nanoseconds from 10⁹ on, so instants are ordered by seconds and then by nanoseconds.
-/

namespace StudyHall

open Calendar

/-- The number of seconds of a day. -/
def secondsPerDay : Int := 86400

/-- The number of nanoseconds of a second. -/
def nanosPerSecond : Int := 1000000000

/-! ## Spans -/

/-- How long something lasts, to the nanosecond; a span that leads back is negative. -/
structure Span where
  nanos : Int
  deriving DecidableEq

/-- The span of some whole seconds. -/
def Span.seconds (n : Int) : Span := ⟨n * nanosPerSecond⟩

/-- The span of nothing. -/
instance : Zero Span := ⟨⟨0⟩⟩

/-! ## Instants -/

/-- The first representable second, that of -262143-01-01T00:00:00Z. -/
def Instant.firstSecond : Int := -8334601228800

/-- The last representable second, that of 262142-12-31T23:59:59Z. -/
def Instant.lastSecond : Int := 8210266876799

/-- Whether seconds and nanoseconds name a point of time: the second lies in the representable
years, and only the last second of a minute can be followed by an inserted one. -/
def Instant.isValid (seconds : Int) (nanos : Nat) : Bool :=
  Instant.firstSecond ≤ seconds && seconds ≤ Instant.lastSecond
    && (nanos < 1000000000 || (nanos < 2000000000 && seconds % 60 == 59))

/-- A point of time. -/
structure Instant where
  seconds : Int
  nanos : Nat
  valid : Instant.isValid seconds nanos = true
  deriving DecidableEq

namespace Instant

/-- The point of time of some seconds and nanoseconds, if they name one. -/
def of? (seconds : Int) (nanos : Nat) : Option Instant :=
  if h : isValid seconds nanos = true then some ⟨seconds, nanos, h⟩ else none

/-- The instant 1970-01-01T00:00:00Z. -/
def epoch : Instant := ⟨0, 0, by decide⟩

/-- The instant a span later, if it is representable. The nanoseconds are counted on from those of
the instant; they pass an inserted second only if the instant lies in it. -/
def after? (t : Instant) (span : Span) : Option Instant :=
  let n := t.nanos + span.nanos
  let carry := n / nanosPerSecond
  if t.nanos < 1000000000 ∨ carry < 1 then
    of? (t.seconds + carry) (n % nanosPerSecond).toNat
  else if carry = 1 then of? t.seconds n.toNat
  else of? (t.seconds + carry - 1) (n % nanosPerSecond).toNat

/-- The day, counted from 1970-01-01, that holds an instant. -/
def day (t : Instant) : Int :=
  t.seconds / secondsPerDay

/-- Whether one instant comes before another. -/
def isBefore (a b : Instant) : Bool :=
  a.seconds < b.seconds || (a.seconds == b.seconds && a.nanos < b.nanos)

theorem isBefore_iff {a b : Instant} :
    a.isBefore b = true ↔ a.seconds < b.seconds ∨ a.seconds = b.seconds ∧ a.nanos < b.nanos := by
  simp [isBefore]

theorem isBefore_trans {a b c : Instant} (ab : a.isBefore b = true) (bc : b.isBefore c = true) :
    a.isBefore c = true := by
  rw [isBefore_iff] at ab bc ⊢
  omega

theorem isBefore_asymm {a b : Instant} (ab : a.isBefore b = true) : ¬ b.isBefore a = true := by
  rw [isBefore_iff] at ab ⊢
  omega

theorem isBefore_irrefl (a : Instant) : ¬ a.isBefore a = true :=
  fun before => isBefore_asymm before before

/-- Of two different instants one comes before the other. -/
theorem isBefore_or_eq (a b : Instant) :
    a.isBefore b = true ∨ a = b ∨ b.isBefore a = true := by
  obtain ⟨s, n, _⟩ := a
  obtain ⟨t, m, _⟩ := b
  simp only [isBefore_iff, mk.injEq]
  omega

/-- The instant without the digits after the sixth place of its fraction. -/
def toMicros (t : Instant) : Instant :=
  match of? t.seconds (t.nanos / 1000 * 1000) with
  | some r => r
  | none => t

end Instant

/-! ## Clocks -/

/-- What a clock shows at the moments of a piece of work, moment 0 being its start. -/
abbrev Clock := Nat → Instant

namespace Clock

/-- The clock that stands still. -/
def steady (now : Instant) : Clock := fun _ => now

/-- What the clock shows at the start. -/
def first (clock : Clock) : Instant := clock 0

/-- The clock from the next moment on. -/
def later (clock : Clock) : Clock := fun n => clock (n + 1)

end Clock

end StudyHall
