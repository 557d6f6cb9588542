/-!
# Failures

What can go wrong: something is refused for a cause, or a time or text is not one that can be worked
with. The second is no answer to the caller; it ends the computation.
-/

namespace StudyHall

/-- The causes for which the console refuses a request. -/
inductive ConsoleError where
  | invalidMetric
  | invalidRange
  | userNotFound
  | duplicateUsername
  | duplicateEmail
  deriving DecidableEq, Repr

/-- The wording of a cause. -/
def ConsoleError.message : ConsoleError → String
  | .invalidMetric => "invalid metric"
  | .invalidRange => "invalid range"
  | .userNotFound => "user not found"
  | .duplicateUsername => "username already exists"
  | .duplicateEmail => "email already exists"

/-- A failure. -/
inductive Fault (ε : Type) where
  /-- A refusal for a cause. -/
  | refused (cause : ε)
  /-- A computed time lies beyond the representable years. -/
  | outsideCalendar
  /-- A clock that is to be compared with an expiry stands too early to be set back by the seconds
  of grace. -/
  | earlyClock
  /-- A text is to be cut within a character. -/
  | brokenCharacter
  deriving DecidableEq, Repr

/-- A failure with another name for its cause. -/
def Fault.map {ε δ : Type} (f : ε → δ) : Fault ε → Fault δ
  | .refused cause => .refused (f cause)
  | .outsideCalendar => .outsideCalendar
  | .earlyClock => .earlyClock
  | .brokenCharacter => .brokenCharacter

/-- Two steps one after the other succeed exactly when both do. -/
theorem bind_eq_ok_iff {ε α β : Type} {x : Except ε α} {f : α → Except ε β} {b : β} :
    (x >>= f) = .ok b ↔ ∃ a, x = .ok a ∧ f a = .ok b := by
  cases x with
  | error e => simp [bind, Except.bind]
  | ok a => simp [bind, Except.bind]

/-- Of two steps in a row the first one fails, or the second one after it. -/
theorem bind_eq_error_iff {ε α β : Type} {x : Except ε α} {f : α → Except ε β} {e : ε} :
    (x >>= f) = .error e ↔ x = .error e ∨ ∃ a, x = .ok a ∧ f a = .error e := by
  cases x with
  | error e => simp [bind, Except.bind]
  | ok a => simp [bind, Except.bind]

theorem map_eq_ok_iff {ε α β : Type} {x : Except ε α} {f : α → β} {b : β} :
    x.map f = .ok b ↔ ∃ a, x = .ok a ∧ b = f a := by
  cases x with
  | error e => simp [Except.map]
  | ok a => simp [Except.map, eq_comm]

theorem map_eq_error_iff {ε α β : Type} {x : Except ε α} {f : α → β} {e : ε} :
    x.map f = .error e ↔ x = .error e := by
  cases x with
  | error e => simp [Except.map]
  | ok a => simp [Except.map]

end StudyHall
