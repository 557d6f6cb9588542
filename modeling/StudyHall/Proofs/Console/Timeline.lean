import StudyHall.Proofs.Console.Membership

/-!
# When a record was changed and when it was created

As long as the clock does not go back, no record of an operator who was created by an operation has
been changed before it was created. The record of the first operator is different: the time of its
creation comes from the settings, and nothing holds it against the clock. If it lies ahead, a change
brings in the present time, which is then before the time of creation.

`Settled` is what carries the argument through a run: a record was not changed before it was
created, and nothing that will still be read off a clock is before its creation either. A
creation settles its record, whatever stood under the identifier before, and every operation
keeps settled what is settled.

## Main results

* `Outcome.settled`, `settled_run` — one operation, and a run.
* `changed_before_created_iff` — the one way in which a record is changed before it was created.
* `first_operator_ahead` — a first operator from the future.
-/

namespace StudyHall.Directory

/-! ## Readings -/

/-- What a clock shows at the turns of those listed operators who are there. -/
def turnReadings (d : Directory) (clock : Clock) : List Uuid → List Instant
  | [] => []
  | id :: ids =>
      if (d.get? id).isSome then clock.first :: d.turnReadings clock.later ids
      else d.turnReadings clock.later ids

/-- What an event in a directory has read off its clock, in order. -/
def Event.readings (d : Directory) (e : Event) : List Instant :=
  match e.operation, e.answer with
  | .create _ _, .operator _ => [e.clock.first]
  | .update _ _, .operator _ => [e.clock.first]
  | .bulkStatus ids _, _ => d.turnReadings e.clock ids
  | .invite _ _, _ => [e.clock.first]
  | _, _ => []

/-- What a run reads off its clocks, in order. -/
def readings (d : Directory) : List (Clock × Operation) → List Instant
  | [] => []
  | (clock, op) :: steps =>
      Event.readings d ⟨clock, op, (d.performUnder clock op).1⟩
        ++ (d.performUnder clock op).2.readings steps

/-- No time is before an earlier one of a list. -/
def InOrder (times : List Instant) : Prop :=
  times.Pairwise fun a b => b.isBefore a = false

instance (times : List Instant) : Decidable (InOrder times) :=
  inferInstanceAs (Decidable (List.Pairwise _ _))

/-- Times in order are not before a time that the first of them is not before. -/
theorem InOrder.of_head {times : List Instant} {t : Instant} (inOrder : InOrder times)
    (start : ∀ now ∈ times.head?, now.isBefore t = false) :
    ∀ now ∈ times, now.isBefore t = false := by
  cases times with
  | nil =>
      intro now mem
      cases mem
  | cons first rest =>
      have notBefore : first.isBefore t = false := start first rfl
      intro now mem
      cases List.mem_cons.mp mem with
      | inl same => rwa [same]
      | inr later =>
          have after : now.isBefore first = false := (List.pairwise_cons.mp inOrder).1 now later
          rw [Bool.eq_false_iff, ne_eq, Instant.isBefore_iff] at notBefore after ⊢
          omega

theorem mem_turnReadings {d : Directory} {clock : Clock} {ids : List Uuid} {id : Uuid} {n : Nat}
    (present : (d.get? id).isSome) (turn : lastTurn id ids = some n) :
    clock n ∈ d.turnReadings clock ids := by
  induction ids generalizing clock n with
  | nil => cases turn
  | cons key ids ih =>
      unfold lastTurn at turn
      unfold turnReadings
      split at turn
      · next m later =>
          cases turn
          have read : clock (m + 1) ∈ d.turnReadings clock.later ids := ih later
          split
          · exact List.mem_cons_of_mem _ read
          · exact read
      · split at turn
        · next same =>
            cases turn
            subst same
            rw [if_pos present]
            exact List.mem_cons_self
        · cases turn

/-! ## Settled records -/

/-- The record under a key was not changed before it was created, and none of the given times is
before its creation. -/
def Settled (d : Directory) (id : Uuid) (later : List Instant) : Prop :=
  ∀ ⦃o⦄, d.get? id = some o →
    o.updatedAt.isBefore o.createdAt = false ∧ ∀ now ∈ later, now.isBefore o.createdAt = false

section Step

variable {d d' : Directory} {clock : Clock} {op : Operation} {answer : Answer} {id : Uuid}
  {earlier later : List Instant}

/-- What is settled stays so where nothing comes in, and with fewer times to come. -/
theorem Settled.of_subset (settled : d.Settled id (earlier ++ later))
    (frame : ∀ ⦃o⦄, d'.get? id = some o → d.get? id = some o) : d'.Settled id later := by
  intro o present
  obtain ⟨changed, coming⟩ := settled (frame present)
  exact ⟨changed, fun now mem => coming now (List.mem_append_right earlier mem)⟩

/-- A change of a settled record at one of the times to come. -/
theorem Settled.touch {f : Operator → Operator} {now : Instant}
    (settled : d.Settled id (earlier ++ later)) (read : now ∈ earlier)
    (created : ∀ o, (f o).createdAt = o.createdAt) (updated : ∀ o, (f o).updatedAt = now)
    (changed : d'.get? id = (d.get? id).map f) : d'.Settled id later := by
  intro o present
  rw [changed] at present
  obtain ⟨current, was, rfl⟩ := Option.map_eq_some_iff.mp present
  obtain ⟨-, coming⟩ := settled was
  rw [created, updated]
  exact ⟨coming now (List.mem_append_left later read),
    fun next mem => coming next (List.mem_append_right earlier mem)⟩

/-- After an operation a record is settled that was created by it or settled before. -/
theorem Outcome.settled (outcome : Outcome d clock op answer d')
    (inOrder : InOrder (Event.readings d ⟨clock, op, answer⟩ ++ later))
    (before : Event.drawn? ⟨clock, op, answer⟩ = some id
      ∨ d.Settled id (Event.readings d ⟨clock, op, answer⟩ ++ later)) :
    d'.Settled id later := by
  cases outcome with
  | @created key new _ _ =>
      by_cases same : id = key
      · intro o present
        rw [get?_insert, NewOperator.id_toOperator, if_pos same] at present
        cases present
        refine ⟨Bool.eq_false_iff.mpr (Instant.isBefore_irrefl _), ?_⟩
        exact (List.pairwise_cons.mp inOrder).1
      · have settled := before.resolve_left fun drawn => same (Option.some.inj drawn).symm
        refine settled.of_subset fun o present => ?_
        rwa [get?_insert, NewOperator.id_toOperator, if_neg same] at present
  | @updated key patch _ _ _ _ =>
      have settled := before.resolve_left nofun
      by_cases same : id = key
      · refine settled.touch (f := patch.apply clock.first) List.mem_cons_self (fun _ => rfl)
          (fun _ => rfl) ?_
        rw [get?_modify, if_pos same]
      · refine settled.of_subset fun o present => ?_
        rwa [get?_modify, if_neg same] at present
  | @deleted key _ =>
      refine (before.resolve_left nofun).of_subset fun o present => ?_
      rw [get?_erase] at present
      split at present
      · cases present
      · exact present
  | @statusSet ids status =>
      have settled := before.resolve_left nofun
      cases turn : lastTurn id ids with
      | none =>
          refine settled.of_subset fun o present => ?_
          rwa [get?_bulkStatus, turn] at present
      | some n =>
          intro o present
          have changed := d.get?_bulkStatus clock status ids id
          rw [turn] at changed
          have there : (d.get? id).isSome := by
            rw [changed] at present
            obtain ⟨current, was, -⟩ := Option.map_eq_some_iff.mp present
            rw [was]
            rfl
          exact settled.touch (f := Operator.setStatus status (clock n))
            (mem_turnReadings there turn) (fun _ => rfl) (fun _ => rfl) changed present
  | @removed ids =>
      refine (before.resolve_left nofun).of_subset fun o present => ?_
      rw [get?_bulkDelete] at present
      split at present
      · cases present
      · exact present
  | unchanged silent =>
      rw [Event.drawn?_of_silent silent] at before
      exact (before.resolve_left nofun).of_subset fun _ present => present

end Step

/-! ## Runs -/

/-- After a run a record is settled that was created in it or settled before. -/
theorem settled_run {d : Directory} {steps : List (Clock × Operation)} {id : Uuid}
    (inOrder : InOrder (d.readings steps))
    (before : id ∈ drawn (d.history steps) ∨ d.Settled id (d.readings steps)) :
    (d.run steps).Settled id [] := by
  induction steps generalizing d with
  | nil => exact before.resolve_left (List.not_mem_nil)
  | cons step steps ih =>
      obtain ⟨clock, op⟩ := step
      have outcome := d.outcome_performUnder clock op
      have rest : InOrder ((d.performUnder clock op).2.readings steps) :=
        (List.pairwise_append.mp inOrder).2.1
      refine ih rest ?_
      rcases before with created | settled
      · rw [drawn, history, List.filterMap_cons] at created
        split at created
        · exact .inl created
        · next key now =>
            cases List.mem_cons.mp created with
            | inl same => exact .inr (outcome.settled inOrder (.inl (same ▸ now)))
            | inr later => exact .inl later
      · exact .inr (outcome.settled inOrder (.inr settled))

/-! ## The first operator -/

theorem get?_seeded_eq_some_iff {p : AdminProfile} {id : Uuid} {o : Operator} :
    (seeded p).get? id = some o ↔ id = p.id ∧ o = p.toOperator := by
  rw [get?_eq_some_iff]
  simp only [seeded, List.mem_singleton, Prod.mk.injEq]

/-- A record that no operation has created is that of the first operator, with the time of its
creation from the settings. -/
theorem first_operator_of_not_drawn {p : AdminProfile} {steps : List (Clock × Operation)}
    {id : Uuid} {o : Operator} (undrawn : id ∉ drawn ((initial (some p)).history steps))
    (present : ((initial (some p)).run steps).get? id = some o) :
    id = p.id ∧ o.createdAt = p.createdAt
      ∧ (lastTouch? id ((initial (some p)).history steps)).getD p.createdAt = o.updatedAt := by
  obtain ⟨first, was, created⟩ :=
    Option.map_eq_some_iff.mp (createdAt_of_not_drawn undrawn present)
  obtain ⟨same, rfl⟩ := get?_seeded_eq_some_iff.mp was
  have updated := updatedAt_run_initial present
  rw [← created] at updated
  exact ⟨same, created.symm, updated⟩

/-- As long as no clock goes back, the only record of a run that can have been changed before it was
created is that of the first operator, and only so that the last change came before the time of
creation that the settings give. Where the first reading is not before that time, every record was
changed at its creation or after it. -/
theorem changed_before_created_iff (p : AdminProfile) (steps : List (Clock × Operation))
    (inOrder : InOrder ((initial (some p)).readings steps)) :
    (∀ id o, ((initial (some p)).run steps).get? id = some o →
        (o.updatedAt.isBefore o.createdAt = true ↔
          id = p.id ∧ id ∉ drawn ((initial (some p)).history steps)
            ∧ ∃ now, lastTouch? id ((initial (some p)).history steps) = some now
              ∧ now.isBefore p.createdAt = true))
      ∧ ((∀ now ∈ ((initial (some p)).readings steps).head?, now.isBefore p.createdAt = false) →
          ∀ id o, ((initial (some p)).run steps).get? id = some o →
            o.updatedAt.isBefore o.createdAt = false) := by
  constructor
  · intro id o present
    constructor
    · intro early
      have undrawn : id ∉ drawn ((initial (some p)).history steps) := by
        intro created
        obtain ⟨settled, -⟩ := settled_run inOrder (.inl created) present
        rw [early] at settled
        cases settled
      obtain ⟨same, created, updated⟩ := first_operator_of_not_drawn undrawn present
      rw [created] at early
      refine ⟨same, undrawn, o.updatedAt, ?_, early⟩
      cases touch : lastTouch? id ((initial (some p)).history steps) with
      | none =>
          rw [touch, Option.getD_none] at updated
          rw [← updated] at early
          exact absurd early (Instant.isBefore_irrefl _)
      | some now =>
          rw [touch, Option.getD_some] at updated
          rw [updated]
    · rintro ⟨-, undrawn, now, touch, early⟩
      obtain ⟨-, created, updated⟩ := first_operator_of_not_drawn undrawn present
      rw [touch, Option.getD_some] at updated
      rw [← updated, created]
      exact early
  · intro start id o present
    have ahead := inOrder.of_head start
    have settled : (initial (some p)).Settled id ((initial (some p)).readings steps) := by
      intro first was
      obtain ⟨-, rfl⟩ := get?_seeded_eq_some_iff.mp was
      exact ⟨Bool.eq_false_iff.mpr (Instant.isBefore_irrefl _), ahead⟩
    exact (settled_run inOrder (.inr settled) present).1

/-- A first operator whose account begins five minutes after the start of 1970. -/
def sampleFirst : AdminProfile :=
  ⟨.ofNat 7, "Root", "root@x", .superAdmin, .jee, ⟨300, 0, by decide⟩, []⟩

theorem changed_before_created_iff_sample :
    let steps := (Clock.steady (minute 1), .update (.ofNat 7) {}) :: sampleSteps
    let run := (initial (some sampleFirst)).run steps
    ∃ first ada, InOrder ((initial (some sampleFirst)).readings steps)
      ∧ run.get? (.ofNat 7) = some first ∧ first.updatedAt.isBefore first.createdAt = true
      ∧ run.get? (.ofNat 1) = some ada ∧ ada.updatedAt.isBefore ada.createdAt = false := by
  intro steps run
  have inOrder : InOrder ((initial (some sampleFirst)).readings steps) := by decide +kernel
  have root : run.get? (.ofNat 7) = some { sampleFirst.toOperator with updatedAt := minute 1 } := by
    decide +kernel
  have ada : run.get? (.ofNat 1) = some ⟨.ofNat 1, "Ada", "Lovelace", "ada", "ada@x", "1",
      .suspended, .admin, minute 1, minute 6⟩ := by decide +kernel
  have touched : lastTouch? (.ofNat 7) ((initial (some sampleFirst)).history steps)
      = some (minute 1) := by decide +kernel
  obtain ⟨exact, -⟩ := changed_before_created_iff sampleFirst steps inOrder
  refine ⟨_, _, inOrder, root, ?_, ada, ?_⟩
  · exact (exact _ _ root).mpr ⟨rfl, by decide +kernel, minute 1, touched, by decide +kernel⟩
  · refine Bool.eq_false_iff.mpr fun early => ?_
    exact absurd ((exact _ _ ada).mp early).1 (by decide +kernel)

/-- A first operator whose account begins in the future is changed before it was created, though
the clock does not go back. -/
theorem first_operator_ahead :
    ¬ ∀ (p : AdminProfile) (steps : List (Clock × Operation)),
        InOrder ((initial (some p)).readings steps) →
          ∀ id o, ((initial (some p)).run steps).get? id = some o →
            o.updatedAt.isBefore o.createdAt = false := by
  intro never
  let steps : List (Clock × Operation) := [(Clock.steady (minute 1), .update (.ofNat 7) {})]
  have inOrder : InOrder ((initial (some sampleFirst)).readings steps) := by decide +kernel
  have changed : ((initial (some sampleFirst)).run steps).get? (.ofNat 7)
      = some { sampleFirst.toOperator with updatedAt := minute 1 } := by decide +kernel
  have early := never sampleFirst steps inOrder _ _ changed
  revert early
  decide +kernel

end StudyHall.Directory
