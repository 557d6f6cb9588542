import StudyHall.Console.DirectoryRun

/-!
# Histories of a directory

The history of a run is what an observer writes down: every operation with its clock and its
answer, in order, and nothing about the records. Identifiers are drawn by the operations that
create an operator and succeed; `DrawsFresh` says that none of them was in use before, be it by the
first operator or by an earlier creation.

## Main results

* `run_append`, `history_append` — a run and its history can be cut at any place.
-/

namespace StudyHall.Directory

/-- An operation that has been performed, under its clock and with its answer. -/
structure Event where
  clock : Clock
  operation : Operation
  answer : Answer

/-- The identifier that an event has drawn for a new operator. -/
def Event.drawn? (e : Event) : Option Uuid :=
  match e.operation, e.answer with
  | .create id _, .operator _ => some id
  | _, _ => none

/-- What happens in a run, the first event in front. -/
def history (d : Directory) : List (Clock × Operation) → List Event
  | [] => []
  | (clock, op) :: steps =>
      ⟨clock, op, (d.performUnder clock op).1⟩ :: (d.performUnder clock op).2.history steps

/-- The identifiers drawn in a history. -/
def drawn (events : List Event) : List Uuid :=
  events.filterMap Event.drawn?

/-- The identifiers in use before the first operation. -/
def initialIds (p : Option AdminProfile) : List Uuid :=
  (p.map AdminProfile.id).toList

/-- Every identifier that a run draws is new: it is neither that of the first operator nor drawn
before. -/
def DrawsFresh (p : Option AdminProfile) (steps : List (Clock × Operation)) : Prop :=
  (initialIds p ++ drawn ((initial p).history steps)).Nodup

instance (p : Option AdminProfile) (steps : List (Clock × Operation)) :
    Decidable (DrawsFresh p steps) :=
  inferInstanceAs (Decidable (List.Nodup _))

theorem get?_initial_isSome_iff {p : Option AdminProfile} {id : Uuid} :
    ((initial p).get? id).isSome ↔ id ∈ initialIds p := by
  cases p with
  | none => simp [initial, empty, get?, initialIds]
  | some p => simp [initial, seeded, get?, initialIds]

theorem run_append (d : Directory) (earlier later : List (Clock × Operation)) :
    d.run (earlier ++ later) = (d.run earlier).run later := by
  induction earlier generalizing d with
  | nil => rfl
  | cons step earlier ih => exact ih _

theorem history_append (d : Directory) (earlier later : List (Clock × Operation)) :
    d.history (earlier ++ later) = d.history earlier ++ (d.run earlier).history later := by
  induction earlier generalizing d with
  | nil => rfl
  | cons step earlier ih => exact congrArg (List.cons _) (ih _)

end StudyHall.Directory
