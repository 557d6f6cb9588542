/-!
# What computations fail with

Whatever a computation fails with has a property if this holds of each of its steps. The rules
follow the way a computation is written.

## Main results

* `FailsBy.bind`, `FailsBy.map`, `FailsBy.mapM` — the rules.
-/

namespace StudyHall

variable {ε α β : Type} {P : ε → Prop} {x : Except ε α}

/-- Whatever a computation fails with has a property. -/
def FailsBy (P : ε → Prop) (x : Except ε α) : Prop :=
  ∀ e, x = .error e → P e

theorem FailsBy.ok (a : α) : FailsBy P (.ok a) := nofun

theorem FailsBy.error {e : ε} (holds : P e) : FailsBy P (.error e : Except ε α) := by
  intro _ same
  cases same
  exact holds

theorem FailsBy.bind {f : α → Except ε β} (first : FailsBy P x) (next : ∀ a, FailsBy P (f a)) :
    FailsBy P (x >>= f) := by
  cases x with
  | error e => exact .error (first e rfl)
  | ok a => exact next a

theorem FailsBy.map {f : α → β} (first : FailsBy P x) : FailsBy P (x.map f) := by
  cases x with
  | error e => exact .error (first e rfl)
  | ok a => exact .ok (f a)

theorem FailsBy.mapM {f : α → Except ε β} (each : ∀ a, FailsBy P (f a)) (as : List α) :
    FailsBy P (as.mapM f) := by
  induction as with
  | nil => exact .ok []
  | cons a as ih =>
      rw [List.mapM_cons]
      exact (each a).bind fun b => ih.bind fun bs => .ok (b :: bs)

end StudyHall
