import StudyHall.Console.Directory

/-!
# Runs of directory operations

An operation with its arguments as a value, its effect on a directory, and the effect of a list of
operations one after the other. The id of a new operator and the clock are arguments; only an
operation on many operators looks at its clock more than once.

## Main results

* `performUnder_failed` — an operation that fails leaves the directory as it is.
* `outcome_performUnder` — the six things that an operation can come to, with what it has checked.
-/

namespace StudyHall

namespace Directory

/-- An operation on the directory. -/
inductive Operation where
  | create (id : Uuid) (new : NewOperator)
  | update (id : Uuid) (patch : OperatorPatch)
  | delete (id : Uuid)
  | bulkStatus (ids : List Uuid) (status : OperatorStatus)
  | bulkDelete (ids : List Uuid)
  | list (filter : Filter)
  | get (id : Uuid)
  | isEmpty
  | invite (email : String) (role : OperatorRole)

/-- What an operation answers. -/
inductive Answer where
  | operator (o : Operator)
  | deleted
  | count (n : Nat)
  | page (p : Page)
  | found (o : Option Operator)
  | truth (b : Bool)
  | receipt (r : InviteReceipt)
  | failed (fault : Fault ConsoleError)

/-- The answer of an operation under a clock, and the directory after it. -/
def performUnder (d : Directory) (clock : Clock) : Operation → Answer × Directory
  | .create id new =>
      match d.create id clock.first new with
      | .ok (o, d') => (.operator o, d')
      | .error e => (.failed (.refused e), d)
  | .update id patch =>
      match d.update id clock.first patch with
      | .ok (o, d') => (.operator o, d')
      | .error e => (.failed (.refused e), d)
  | .delete id =>
      match d.delete id with
      | .ok d' => (.deleted, d')
      | .error e => (.failed (.refused e), d)
  | .bulkStatus ids status =>
      let r := d.bulkStatus clock status ids
      (.count r.1, r.2)
  | .bulkDelete ids =>
      let r := d.bulkDelete ids
      (.count r.1, r.2)
  | .list f => (.page (d.list f), d)
  | .get id => (.found (d.get? id), d)
  | .isEmpty => (.truth d.isEmpty, d)
  | .invite _ _ =>
      match invite? clock.first with
      | some r => (.receipt r, d)
      | none => (.failed .outsideCalendar, d)

/-- Whether an operation only tells something. -/
def Operation.isQuery : Operation → Bool
  | .list _ => true
  | .get _ => true
  | .isEmpty => true
  | .invite _ _ => true
  | _ => false

/-- What an operation can come to: its answer, and the directory after it. -/
inductive Outcome (d : Directory) (clock : Clock) : Operation → Answer → Directory → Prop
  | created {id : Uuid} {new : NewOperator}
      (freeName : d.usernameTaken new.username none = false)
      (freeEmail : d.emailTaken new.email none = false) :
      Outcome d clock (.create id new) (.operator (new.toOperator id clock.first))
        (d.insert (new.toOperator id clock.first))
  | updated {id : Uuid} {patch : OperatorPatch} {current : Operator}
      (present : d.get? id = some current)
      (nameCheck :
        (patch.username.any fun n => n != current.username && d.usernameTaken n (some id)) = false)
      (emailCheck :
        (patch.email.any fun e => e != current.email && d.emailTaken e (some id)) = false) :
      Outcome d clock (.update id patch) (.operator (patch.apply clock.first current))
        (d.modify id (patch.apply clock.first))
  | deleted {id : Uuid} (present : (d.get? id).isSome) :
      Outcome d clock (.delete id) .deleted (d.erase id)
  | statusSet {ids : List Uuid} {status : OperatorStatus} :
      Outcome d clock (.bulkStatus ids status) (.count (d.bulkStatus clock status ids).1)
        (d.bulkStatus clock status ids).2
  | removed {ids : List Uuid} :
      Outcome d clock (.bulkDelete ids) (.count (d.bulkDelete ids).1) (d.bulkDelete ids).2
  | unchanged {op : Operation} {answer : Answer}
      (silent : op.isQuery = true ∨ ∃ fault, answer = .failed fault) :
      Outcome d clock op answer d

theorem outcome_performUnder (d : Directory) (clock : Clock) (op : Operation) :
    Outcome d clock op (d.performUnder clock op).1 (d.performUnder clock op).2 := by
  cases op with
  | create id new =>
      cases done : d.create id clock.first new with
      | error e =>
          simp only [performUnder, done]
          exact .unchanged (.inr ⟨_, rfl⟩)
      | ok result =>
          obtain ⟨o, d'⟩ := result
          obtain ⟨freeName, freeEmail, rfl, rfl⟩ := create_eq_ok_iff.mp done
          simp only [performUnder, done]
          exact .created freeName freeEmail
  | update id patch =>
      cases done : d.update id clock.first patch with
      | error e =>
          simp only [performUnder, done]
          exact .unchanged (.inr ⟨_, rfl⟩)
      | ok result =>
          obtain ⟨o, d'⟩ := result
          obtain ⟨current, present, nameCheck, emailCheck, rfl, rfl⟩ := update_eq_ok_iff.mp done
          simp only [performUnder, done]
          exact .updated present nameCheck emailCheck
  | delete id =>
      cases done : d.delete id with
      | error e =>
          simp only [performUnder, done]
          exact .unchanged (.inr ⟨_, rfl⟩)
      | ok d' =>
          obtain ⟨present, rfl⟩ := delete_eq_ok_iff.mp done
          simp only [performUnder, done]
          exact .deleted present
  | bulkStatus ids status => exact .statusSet
  | bulkDelete ids => exact .removed
  | list f => exact .unchanged (.inl rfl)
  | get id => exact .unchanged (.inl rfl)
  | isEmpty => exact .unchanged (.inl rfl)
  | invite email role =>
      simp only [performUnder]
      split
      · exact .unchanged (.inl rfl)
      · exact .unchanged (.inl rfl)

/-- An operation that fails leaves the directory as it is. -/
theorem performUnder_failed {d : Directory} {clock : Clock} {op : Operation}
    {fault : Fault ConsoleError} (failed : (d.performUnder clock op).1 = .failed fault) :
    (d.performUnder clock op).2 = d := by
  have outcome := d.outcome_performUnder clock op
  rw [failed] at outcome
  generalize (d.performUnder clock op).2 = after at outcome
  cases outcome with
  | unchanged => rfl

/-- The answer of an operation while the clock stands still, and the directory after it. -/
def perform (d : Directory) (now : Instant) (op : Operation) : Answer × Directory :=
  d.performUnder (Clock.steady now) op

/-- The directory after operations, each under its clock. -/
def run (d : Directory) : List (Clock × Operation) → Directory
  | [] => d
  | (clock, op) :: steps => (d.performUnder clock op).2.run steps

/-- The directory before the first operation: that of the first operator, or the empty one. -/
def initial : Option AdminProfile → Directory
  | some p => seeded p
  | none => empty

end Directory

end StudyHall
