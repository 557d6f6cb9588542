import StudyHall.Proofs.Console.History
import StudyHall.Proofs.Service.DirectoryChange

/-!
# Requests as a run of operations

A service answers one request after the other, each from the state that the one before has left.
What it does to the directory on the way is a run of operations: a request that leads to the
directory, comes from an operator and reads well adds one operation to the run, and every other
request adds none. So what is known of runs of operations holds of requests.

A request that ends in a breakdown has no response, but it has arrived and been counted as such, and
the directory stays as the endpoint has left it.

## Main results

* `directoryAfter_eq` — the directory after one request.
* `directory_serve` — the directory after a list of requests.
-/

namespace StudyHall.Service

variable (s : Service)

/-! ## One request -/

/-- The operation on the directory that is carried out for a request. -/
def operation? (c : Call) : Option Directory.Operation :=
  match s.destination? c.request with
  | some (.directory a) =>
      match s.adminTokens.operator c.request c.now, a.operation c.request c.operatorId with
      | .ok _, .ok op => some op
      | _, _ => none
  | _ => none

/-- What is carried out has been asked for, by an operator, of an endpoint of the directory. -/
theorem operation?_eq_some_iff {c : Call} {op : Directory.Operation} :
    s.operation? c = some op ↔
      ∃ a subject, s.destination? c.request = some (.directory a)
        ∧ s.adminTokens.operator c.request c.now = .ok subject
        ∧ a.operation c.request c.operatorId = .ok op := by
  unfold operation?
  constructor
  · intro found
    split at found
    · next a leads =>
        split at found
        · next subject op' known what =>
            cases found
            exact ⟨a, subject, leads, known, what⟩
        · cases found
    · cases found
  · rintro ⟨a, subject, leads, known, what⟩
    simp only [leads, known, what]

/-- A request from an operator is carried out if it reads well. -/
theorem operation?_of_operator {c : Call} {a : DirectoryAction} {subject : TokenSubject}
    (leads : s.destination? c.request = some (.directory a))
    (known : s.adminTokens.operator c.request c.now = .ok subject) :
    s.operation? c = (a.operation c.request c.operatorId).toOption := by
  simp only [operation?, leads, known]
  cases a.operation c.request c.operatorId with
  | error e => rfl
  | ok op => rfl

/-- The directory after a request is that after the operation which is carried out for it. -/
theorem directoryAfter_eq (c : Call) (d : Directory) :
    s.directoryAfter c d
      = match s.operation? c with
        | some op => (d.perform c.now op).2
        | none => d := by
  cases carried : s.operation? c with
  | some op =>
      obtain ⟨a, subject, leads, known, what⟩ := s.operation?_eq_some_iff.mp carried
      simp only [directoryAfter, leads, answer, directoryAction, known, what]
  | none =>
      refine Classical.byContradiction fun changed => ?_
      unfold directoryAfter at changed
      cases leads : s.destination? c.request with
      | none => simp only [leads, not_true_eq_false] at changed
      | some e =>
          simp only [leads] at changed
          obtain ⟨a, subject, op, rfl, known, what, -⟩ := s.answer_directory_ne changed
          have carries := s.operation?_eq_some_iff.mpr ⟨a, subject, leads, known, what⟩
          rw [carried] at carries
          cases carries

/-! ## Many requests -/

/-- The state after a request. -/
def after (st : State) (c : Call) : State :=
  match s.respond c st with
  | some (_, _, st') => st'
  | none =>
      ⟨s.directoryAfter c st.directory,
        s.recording st.recorder
          [.started c.request.method (PathLabel.ofPath c.request.target.path)]⟩

/-- The state after requests, one after the other. -/
def serve (st : State) (calls : List Call) : State :=
  calls.foldl s.after st

/-- The run of operations that requests add up to; the clock stands still for each of them. -/
def operations (calls : List Call) : List (Clock × Directory.Operation) :=
  calls.filterMap fun c => (s.operation? c).map fun op => (Clock.steady c.now, op)

theorem directory_after (c : Call) (st : State) :
    (s.after st c).directory = s.directoryAfter c st.directory := by
  unfold after
  cases answered : s.respond c st with
  | none => rfl
  | some a =>
      obtain ⟨response, statements, st'⟩ := a
      exact s.respond_directory answered

/-- Requests change the directory as the run of their operations does. -/
theorem directory_serve (st : State) (calls : List Call) :
    (s.serve st calls).directory = st.directory.run (s.operations calls) := by
  induction calls generalizing st with
  | nil => rfl
  | cons c calls ih =>
      have first : (s.after st c).directory = _ :=
        (s.directory_after c st).trans (s.directoryAfter_eq c st.directory)
      show (s.serve (s.after st c) calls).directory = _
      rw [ih, first]
      cases carried : s.operation? c with
      | none => simp only [operations, List.filterMap_cons, carried, Option.map_none]
      | some op =>
          simp only [operations, List.filterMap_cons, carried, Option.map_some]
          rfl

end StudyHall.Service
