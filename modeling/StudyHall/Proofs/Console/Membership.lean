import Mathlib.Algebra.GroupWithZero.Nat
import StudyHall.Proofs.Console.LastWrite

/-!
# Nobody is lost and nobody is counted twice

Who is in a directory after a run can be read off its history: whoever was there from the start or
was created in the run, and has not been removed since. The number of operators is the number at
the start, one more for each creation that succeeded, one less for each deletion that succeeded,
and less by what each removal of many operators has answered. An id that such a removal lists twice
is no longer there the second time, so it is counted once; unknown ids are not counted.

A creation adds to the number only if its identifier is not in use, for otherwise it would replace
a record. `DrawsUnused` says that none is.

## Main results

* `Outcome.isSome_get?`, `Outcome.size` — who is there after one operation, and how many.
* `isSome_get?_run`, `size_run` — the same after a run from any directory.
* `members_and_number` — both for every directory that a run leads to.
-/

namespace StudyHall.Directory

/-! ## What events say about membership -/

namespace Event

/-- Whether an event has removed an operator, alone or with others. -/
def removes (id : Uuid) (e : Event) : Bool :=
  match e.operation, e.answer with
  | .delete key, .deleted => key == id
  | .bulkDelete ids, .count _ => ids.contains id
  | _, _ => false

/-- How many operators an event has removed, by its own account. -/
def removals (e : Event) : Nat :=
  match e.operation, e.answer with
  | .delete _, .deleted => 1
  | .bulkDelete _, .count n => n
  | _, _ => 0

variable {clock : Clock} {op : Operation} {answer : Answer}

theorem drawn?_of_silent (silent : op.isQuery = true ∨ ∃ fault, answer = .failed fault) :
    drawn? ⟨clock, op, answer⟩ = none := by
  rcases silent with query | ⟨fault, rfl⟩
  · cases op <;> first | rfl | cases query
  · cases op <;> rfl

theorem removes_of_silent (silent : op.isQuery = true ∨ ∃ fault, answer = .failed fault)
    (id : Uuid) : removes id ⟨clock, op, answer⟩ = false := by
  rcases silent with query | ⟨fault, rfl⟩
  · cases op <;> first | rfl | cases query
  · cases op <;> rfl

theorem removals_of_silent (silent : op.isQuery = true ∨ ∃ fault, answer = .failed fault) :
    removals ⟨clock, op, answer⟩ = 0 := by
  rcases silent with query | ⟨fault, rfl⟩
  · cases op <;> first | rfl | cases query
  · cases op <;> rfl

end Event

/-- No event has removed an operator. -/
def Kept (id : Uuid) (events : List Event) : Prop :=
  ∀ e ∈ events, e.removes id = false

/-- An operator has been created and not been removed since. -/
def CreatedAndKept (id : Uuid) (events : List Event) : Prop :=
  ∃ earlier e later, events = earlier ++ e :: later ∧ e.drawn? = some id ∧ Kept id later

theorem kept_cons {id : Uuid} {e : Event} {events : List Event} :
    Kept id (e :: events) ↔ e.removes id = false ∧ Kept id events :=
  List.forall_mem_cons

theorem createdAndKept_cons {id : Uuid} {e : Event} {events : List Event} :
    CreatedAndKept id (e :: events) ↔
      (e.drawn? = some id ∧ Kept id events) ∨ CreatedAndKept id events := by
  constructor
  · rintro ⟨earlier, f, later, cut, drawn, kept⟩
    cases earlier with
    | nil =>
        cases cut
        exact .inl ⟨drawn, kept⟩
    | cons first earlier =>
        cases cut
        exact .inr ⟨earlier, f, later, rfl, drawn, kept⟩
  · rintro (⟨drawn, kept⟩ | ⟨earlier, f, later, rfl, drawn, kept⟩)
    · exact ⟨[], e, events, rfl, drawn, kept⟩
    · exact ⟨e :: earlier, f, later, rfl, drawn, kept⟩

/-! ## One operation -/

section Step

variable {d d' : Directory} {clock : Clock} {op : Operation} {answer : Answer}

/-- After an operation an operator is there who was created by it, or who was there before and was
not removed by it. -/
theorem Outcome.isSome_get? (outcome : Outcome d clock op answer d') (id : Uuid) :
    (d'.get? id).isSome ↔ Event.drawn? ⟨clock, op, answer⟩ = some id
      ∨ (d.get? id).isSome ∧ Event.removes id ⟨clock, op, answer⟩ = false := by
  cases outcome with
  | @created key new _ _ =>
      by_cases same : id = key
      · simp [Event.drawn?, get?_insert, same]
      · simp [Event.drawn?, Event.removes, get?_insert, same, Ne.symm same]
  | @updated key patch _ _ _ _ =>
      by_cases same : id = key
      · simp [Event.drawn?, Event.removes, get?_modify, same]
      · simp [Event.drawn?, Event.removes, get?_modify, same]
  | @deleted key _ =>
      by_cases same : id = key
      · simp [Event.drawn?, Event.removes, get?_erase, same]
      · simp [Event.drawn?, Event.removes, get?_erase, same, Ne.symm same]
  | statusSet =>
      rw [get?_bulkStatus]
      split
      · simp [Event.drawn?, Event.removes]
      · simp [Event.drawn?, Event.removes]
  | @removed ids =>
      by_cases listed : id ∈ ids
      · simp [get?_bulkDelete, Event.drawn?, Event.removes, listed]
      · simp [get?_bulkDelete, Event.drawn?, Event.removes, listed]
  | unchanged silent =>
      simp [Event.drawn?_of_silent silent, Event.removes_of_silent silent]

/-- The number of operators after an operation that draws no identifier in use. -/
theorem Outcome.size (outcome : Outcome d clock op answer d')
    (unused : ∀ id ∈ Event.drawn? ⟨clock, op, answer⟩, d.get? id = none) :
    d'.size + Event.removals ⟨clock, op, answer⟩
      = d.size + (Event.drawn? ⟨clock, op, answer⟩).toList.length := by
  cases outcome with
  | @created key new _ _ =>
      have absent : d.get? (new.toOperator key clock.first).id = none := unused key rfl
      simp [Event.removals, Event.drawn?, size_insert absent]
  | updated _ _ _ => simp [Event.removals, Event.drawn?, size_modify]
  | deleted present => simp [Event.removals, Event.drawn?, size_erase present]
  | statusSet => simp [Event.removals, Event.drawn?, size_bulkStatus]
  | removed => simp [Event.removals, Event.drawn?, size_bulkDelete]
  | unchanged silent =>
      simp [Event.drawn?_of_silent silent, Event.removals_of_silent silent]

end Step

/-! ## Runs -/

/-- Every identifier that a run draws is one that no operator has at that time. -/
def DrawsUnused (d : Directory) : List (Clock × Operation) → Prop
  | [] => True
  | (clock, op) :: steps =>
      (∀ id ∈ Event.drawn? ⟨clock, op, (d.performUnder clock op).1⟩, d.get? id = none)
        ∧ (d.performUnder clock op).2.DrawsUnused steps

instance decidableDrawsUnused (d : Directory) :
    (steps : List (Clock × Operation)) → Decidable (d.DrawsUnused steps)
  | [] => inferInstanceAs (Decidable True)
  | (clock, op) :: steps =>
      have := decidableDrawsUnused (d.performUnder clock op).2 steps
      inferInstanceAs (Decidable (_ ∧ _))

/-- The number of operators that events have removed, by their own account. -/
def removed (events : List Event) : Nat :=
  (events.map Event.removals).sum

/-- After a run an operator is there who was created in it and not removed since, or who was there
before and was never removed. -/
theorem isSome_get?_run (d : Directory) (steps : List (Clock × Operation)) (id : Uuid) :
    ((d.run steps).get? id).isSome ↔
      CreatedAndKept id (d.history steps)
        ∨ (d.get? id).isSome ∧ Kept id (d.history steps) := by
  induction steps generalizing d with
  | nil => simp [run, history, CreatedAndKept, Kept]
  | cons step steps ih =>
      obtain ⟨clock, op⟩ := step
      have first := (d.outcome_performUnder clock op).isSome_get? id
      simp only [run, history, ih, first, createdAndKept_cons, kept_cons]
      rw [or_and_right, and_assoc, or_left_comm, or_assoc]

/-- The number of operators after a run that draws no identifier in use. -/
theorem size_run {d : Directory} {steps : List (Clock × Operation)} (unused : d.DrawsUnused steps) :
    (d.run steps).size + removed (d.history steps) = d.size + (drawn (d.history steps)).length := by
  induction steps generalizing d with
  | nil => rfl
  | cons step steps ih =>
      obtain ⟨clock, op⟩ := step
      have first := (d.outcome_performUnder clock op).size unused.1
      have rest := ih unused.2
      simp only [run, history, removed, drawn, List.map_cons, List.sum_cons,
        List.filterMap_cons] at rest ⊢
      split
      · next none =>
          rw [none] at first
          simp only [Option.toList_none, List.length_nil] at first
          omega
      · next id drawn =>
          rw [drawn] at first
          simp only [Option.toList_some, List.length_cons, List.length_nil] at first ⊢
          omega

/-- After every run an operator is in the directory exactly if it was there from the start, or was
created by an operation that succeeded, and has not been named since by a deletion that succeeded or
by a removal of many operators. If no identifier in use is drawn, the number of operators is that at
the start, more by the creations that succeeded and less by the deletions that succeeded and by
what the removals of many operators have answered. -/
theorem members_and_number (p : Option AdminProfile) (steps : List (Clock × Operation)) :
    (∀ id, (((initial p).run steps).get? id).isSome ↔
        id ∈ initialIds p ∧ Kept id ((initial p).history steps)
          ∨ CreatedAndKept id ((initial p).history steps))
      ∧ ((initial p).DrawsUnused steps →
          ((initial p).run steps).size + removed ((initial p).history steps)
            = (initial p).size + (drawn ((initial p).history steps)).length) := by
  refine ⟨fun id => ?_, size_run⟩
  rw [isSome_get?_run, get?_initial_isSome_iff, or_comm]

/-- The run of `sampleSteps`, and then the removal of one operator who is listed twice, of one who
is unknown and of the first operator, a deletion that finds nobody, and one that succeeds. -/
def removalSteps : List (Clock × Operation) :=
  sampleSteps ++
    [ (Clock.steady .epoch, .bulkDelete [.ofNat 1, .ofNat 9, .ofNat 1, .ofNat 7]),
      (Clock.steady .epoch, .delete (.ofNat 1)),
      (Clock.steady .epoch, .delete (.ofNat 2)),
      (Clock.steady .epoch, .create (.ofNat 1)
        ⟨"Ada", "L", "ada", "ada@x", "1", .admin, .active⟩) ]

theorem members_and_number_sample :
    let p : AdminProfile := ⟨.ofNat 7, "Root", "root@x", .superAdmin, .jee, minute 0, []⟩
    (initial (some p)).DrawsUnused removalSteps
      ∧ ((initial (some p)).run removalSteps).size = 1
      ∧ CreatedAndKept (.ofNat 1) ((initial (some p)).history removalSteps)
      ∧ ¬ Kept (.ofNat 7) ((initial (some p)).history removalSteps) := by
  intro p
  have unused : (initial (some p)).DrawsUnused removalSteps := by decide +kernel
  have account : removed ((initial (some p)).history removalSteps) = 3
      ∧ (drawn ((initial (some p)).history removalSteps)).length = 3 := by decide +kernel
  have again : (((initial (some p)).run removalSteps).get? (.ofNat 1)).isSome := by decide +kernel
  have gone : ¬ (((initial (some p)).run removalSteps).get? (.ofNat 7)).isSome := by decide +kernel
  obtain ⟨members, number⟩ := members_and_number (some p) removalSteps
  refine ⟨unused, ?_, ?_, ?_⟩
  · have balance := number unused
    rw [account.1, account.2] at balance
    exact Nat.add_right_cancel balance
  · have other : Uuid.ofNat 1 ∉ initialIds (some p) := by decide +kernel
    exact ((members _).mp again).resolve_left fun first => other first.1
  · intro kept
    exact gone ((members _).mpr (.inl ⟨List.mem_singleton.mpr rfl, kept⟩))

end StudyHall.Directory
