import StudyHall.Proofs.Console.History

/-!
# The last write decides

A part of a record is a register: the creation of the record writes it, and later operations may
write it again. What a run leaves in a register is the value of the last event of its history that
wrote it, or the value of the first operator where no event did. Refused operations and operations
on other operators write nothing.

## Main results

* `get?_bulkStatus` — a change of many states reaches each listed record, at the reading of the
  clock where it is listed last.
* `Register.or_read_step`, `Register.or_read_run` — one operation, and then a run, leave a register
  with the last value written.
* `records_hold_last_writes` — every part of every record after a run, and the time of its creation
  for good.
-/

namespace StudyHall.Directory

/-! ## Turns of an operation on many operators -/

/-- The place at which an id is listed last. -/
def lastTurn (id : Uuid) : List Uuid → Option Nat
  | [] => none
  | key :: ids =>
      match lastTurn id ids with
      | some n => some (n + 1)
      | none => if key = id then some 0 else none

theorem get?_bulkStatus (d : Directory) (clock : Clock) (status : OperatorStatus)
    (ids : List Uuid) (id : Uuid) :
    (d.bulkStatus clock status ids).2.get? id =
      match lastTurn id ids with
      | some n => (d.get? id).map (Operator.setStatus status (clock n))
      | none => d.get? id := by
  induction ids generalizing d clock with
  | nil => rfl
  | cons key ids ih =>
      have twice (now : Instant) (o : Operator) :
          (o.setStatus status clock.first).setStatus status now = o.setStatus status now := rfl
      unfold bulkStatus lastTurn
      split
      · simp only [ih, get?_modify]
        cases lastTurn id ids with
        | some n =>
            by_cases same : id = key
            · simp [same, Function.comp_def, twice, Clock.later]
            · simp [same, Clock.later]
        | none =>
            by_cases same : id = key
            · simp [same, Clock.first]
            · simp [same, Ne.symm same]
      · next absent =>
          simp only [ih]
          cases lastTurn id ids with
          | some n => rfl
          | none =>
              by_cases same : id = key
              · simp [same, absent]
              · simp [Ne.symm same]

/-! ## Registers -/

/-- A part of a record as operations write it: what a new operator, a patch and a change of state
bring at a reading of the clock. -/
structure Register (α : Type) where
  read : Operator → α
  ofNew : Instant → NewOperator → α
  ofPatch : Instant → OperatorPatch → Option α
  ofStatus : Instant → OperatorStatus → Option α
  read_toOperator : ∀ new id now, read (NewOperator.toOperator new id now) = ofNew now new := by
    intros; rfl
  read_apply : ∀ patch now o,
      read (OperatorPatch.apply patch now o) = (ofPatch now patch).getD (read o) := by
    intros; rfl
  read_setStatus : ∀ status now o,
      read (Operator.setStatus status now o) = (ofStatus now status).getD (read o) := by
    intros; rfl

namespace Register

/-- A part that is brought in as it is, and that a change of state leaves alone. -/
abbrev field {α : Type} (read : Operator → α) (ofNew : NewOperator → α)
    (ofPatch : OperatorPatch → Option α)
    (read_toOperator : ∀ new id now, read (NewOperator.toOperator new id now) = ofNew new := by
      intros; rfl)
    (read_apply : ∀ patch now o,
        read (OperatorPatch.apply patch now o) = (ofPatch patch).getD (read o) := by intros; rfl)
    (read_setStatus : ∀ status now o, read (Operator.setStatus status now o) = read o := by
      intros; rfl) : Register α where
  read := read
  ofNew := fun _ => ofNew
  ofPatch := fun _ => ofPatch
  ofStatus := fun _ _ => none
  read_toOperator := read_toOperator
  read_apply := read_apply
  read_setStatus := read_setStatus

def firstName : Register String :=
  field Operator.firstName NewOperator.firstName OperatorPatch.firstName

def lastName : Register String :=
  field Operator.lastName NewOperator.lastName OperatorPatch.lastName

def username : Register String :=
  field Operator.username NewOperator.username OperatorPatch.username

def email : Register String :=
  field Operator.email NewOperator.email OperatorPatch.email

def phoneNumber : Register String :=
  field Operator.phoneNumber NewOperator.phoneNumber OperatorPatch.phoneNumber

def role : Register OperatorRole :=
  field Operator.role NewOperator.role OperatorPatch.role

/-- The one part that a change of state brings in. -/
def status : Register OperatorStatus where
  read := Operator.status
  ofNew := fun _ new => new.status
  ofPatch := fun _ patch => patch.status
  ofStatus := fun _ status => some status

/-- Only the creation writes this one. -/
def createdAt : Register Instant where
  read := Operator.createdAt
  ofNew := fun now _ => now
  ofPatch := fun _ _ => none
  ofStatus := fun _ _ => none

/-- Every operation on a record writes this one, a patch without fields too. -/
def updatedAt : Register Instant where
  read := Operator.updatedAt
  ofNew := fun now _ => now
  ofPatch := fun now _ => some now
  ofStatus := fun now _ => some now

variable {α : Type} (r : Register α)

/-- What an event writes into a register of an operator. -/
def written? (id : Uuid) (e : Event) : Option α :=
  match e.operation, e.answer with
  | .create key new, .operator _ => if key = id then some (r.ofNew e.clock.first new) else none
  | .update key patch, .operator _ => if key = id then r.ofPatch e.clock.first patch else none
  | .bulkStatus ids status, .count _ =>
      (lastTurn id ids).bind fun n => r.ofStatus (e.clock n) status
  | _, _ => none

/-- The last value that a history has written into a register of an operator. -/
def last? (id : Uuid) (events : List Event) : Option α :=
  events.reverse.findSome? (r.written? id)

theorem last?_cons (id : Uuid) (e : Event) (events : List Event) :
    r.last? id (e :: events) = (r.last? id events).or (r.written? id e) := by
  simp only [last?, List.reverse_cons, List.findSome?_append, List.findSome?_singleton]

/-! ## One operation -/

/-- Queries and failures write nothing. -/
theorem written?_of_silent {clock : Clock} {op : Operation} {answer : Answer} (id : Uuid)
    (silent : op.isQuery = true ∨ ∃ fault, answer = .failed fault) :
    r.written? id ⟨clock, op, answer⟩ = none := by
  rcases silent with query | ⟨fault, rfl⟩
  · cases op <;> first | rfl | cases query
  · cases op <;> rfl

/-- After an operation, a register of a record that is there holds what the operation wrote, or
what it held before. -/
theorem or_read_step (d : Directory) (clock : Clock) (op : Operation) {id : Uuid} {o : Operator}
    (present : (d.performUnder clock op).2.get? id = some o) :
    (r.written? id ⟨clock, op, (d.performUnder clock op).1⟩).or ((d.get? id).map r.read)
      = some (r.read o) := by
  have outcome := d.outcome_performUnder clock op
  generalize (d.performUnder clock op).1 = answer,
    (d.performUnder clock op).2 = after at outcome present ⊢
  cases outcome with
  | created =>
      rw [get?_insert] at present
      split at present
      · next same =>
          cases present
          simp [written?, same, r.read_toOperator]
      · next other =>
          rw [NewOperator.id_toOperator] at other
          simp [written?, Ne.symm other, present]
  | @updated key patch =>
      rw [get?_modify] at present
      split at present
      · next same =>
          obtain ⟨before, hbefore, rfl⟩ := Option.map_eq_some_iff.mp present
          simp only [written?, same.symm, if_true, hbefore, Option.map_some, r.read_apply]
          cases r.ofPatch clock.first patch <;> rfl
      · next other => simp [written?, Ne.symm other, present]
  | deleted =>
      rw [get?_erase] at present
      split at present
      · cases present
      · simp [written?, present]
  | @statusSet ids status =>
      rw [get?_bulkStatus] at present
      simp only [written?]
      cases turn : lastTurn id ids with
      | none =>
          rw [turn] at present
          simp [show d.get? id = some o from present]
      | some n =>
          rw [turn] at present
          obtain ⟨before, hbefore, rfl⟩ := Option.map_eq_some_iff.mp present
          simp only [Option.bind_some, hbefore, Option.map_some, r.read_setStatus]
          cases r.ofStatus (clock n) status <;> rfl
  | removed =>
      rw [get?_bulkDelete] at present
      split at present
      · cases present
      · simp [written?, present]
  | unchanged silent =>
      rw [r.written?_of_silent id silent, Option.none_or, present, Option.map_some]

/-! ## Runs -/

/-- After a run, a register of a record that is there holds the last value written, or what it held
before the run. -/
theorem or_read_run (d : Directory) (steps : List (Clock × Operation)) {id : Uuid} {o : Operator}
    (present : (d.run steps).get? id = some o) :
    (r.last? id (d.history steps)).or ((d.get? id).map r.read) = some (r.read o) := by
  induction steps generalizing d with
  | nil => simp [last?, history, show d.get? id = some o from present]
  | cons step steps ih =>
      obtain ⟨clock, op⟩ := step
      have later := ih (d.performUnder clock op).2 present
      simp only [history, last?_cons]
      rw [Option.or_assoc]
      cases written : r.last? id ((d.performUnder clock op).2.history steps) with
      | some v =>
          rw [written] at later
          exact later
      | none =>
          rw [written, Option.none_or] at later
          obtain ⟨middle, hmiddle, same⟩ := Option.map_eq_some_iff.mp later
          rw [Option.none_or, ← same]
          exact r.or_read_step d clock op hmiddle

end Register

/-! ## Creation and later changes -/

/-- When an event changed the record of an operator who was there before it. -/
def Event.touched? (id : Uuid) (e : Event) : Option Instant :=
  match e.operation, e.answer with
  | .update key _, .operator _ => if key = id then some e.clock.first else none
  | .bulkStatus ids _, .count _ => (lastTurn id ids).map e.clock
  | _, _ => none

/-- When the record of an operator was last changed since its creation. -/
def lastTouch? (id : Uuid) (events : List Event) : Option Instant :=
  (events.reverse.takeWhile fun e => e.drawn? != some id).findSome? (Event.touched? id)

theorem createdAt_written? (id : Uuid) (e : Event) :
    Register.createdAt.written? id e =
      if e.drawn? = some id then some e.clock.first else none := by
  obtain ⟨clock, op, answer⟩ := e
  cases op <;> cases answer <;> simp [Register.written?, Register.createdAt, Event.drawn?]

theorem updatedAt_written? (id : Uuid) (e : Event) :
    Register.updatedAt.written? id e =
      if e.drawn? = some id then some e.clock.first else e.touched? id := by
  obtain ⟨clock, op, answer⟩ := e
  cases op with
  | bulkStatus ids status =>
      cases answer with
      | count n => cases turn : lastTurn id ids <;>
          simp [Register.written?, Register.updatedAt, Event.drawn?, Event.touched?, turn]
      | _ => rfl
  | _ => cases answer <;>
      simp [Register.written?, Register.updatedAt, Event.drawn?, Event.touched?]

/-- The time of the last change is that of the last change since the creation, and that of the
creation where there was none. -/
theorem updatedAt_last? (id : Uuid) (events : List Event) :
    Register.updatedAt.last? id events =
      (lastTouch? id events).or (Register.createdAt.last? id events) := by
  simp only [Register.last?, lastTouch?]
  induction events.reverse with
  | nil => rfl
  | cons e newestFirst ih =>
      simp only [List.findSome?_cons, List.takeWhile_cons, createdAt_written?, updatedAt_written?]
      by_cases created : e.drawn? = some id
      · simp [created]
      · simp only [created, if_false, bne_iff_ne, ne_eq, not_false_eq_true, if_true,
          List.findSome?_cons]
        cases e.touched? id with
        | some now => rfl
        | none => simpa [createdAt_written?, updatedAt_written?] using ih

/-! ## What a run leaves behind -/

/-- The value of a register of an operator after a run: the last one written, or that of the first
operator. -/
def Register.after {α : Type} (r : Register α) (p : Option AdminProfile)
    (steps : List (Clock × Operation)) (id : Uuid) : Option α :=
  (r.last? id ((initial p).history steps)).or (((initial p).get? id).map r.read)

/-- A record that is there was drawn in the run or is that of the first operator. -/
theorem drawn_or_initial {d : Directory} {steps : List (Clock × Operation)} {id : Uuid}
    {o : Operator} (present : (d.run steps).get? id = some o) :
    id ∈ drawn (d.history steps) ∨ (d.get? id).isSome := by
  have written := Register.createdAt.or_read_run d steps present
  cases last : Register.createdAt.last? id (d.history steps) with
  | some now =>
      obtain ⟨e, mem, wrote⟩ := List.exists_of_findSome?_eq_some last
      rw [createdAt_written?] at wrote
      split at wrote
      · next created => exact .inl (List.mem_filterMap.mpr ⟨e, List.mem_reverse.mp mem, created⟩)
      · cases wrote
  | none =>
      rw [last, Option.none_or] at written
      obtain ⟨first, there, -⟩ := Option.map_eq_some_iff.mp written
      exact .inr (by rw [there]; rfl)

/-- A run that does not draw the identifier of a record leaves the time of its creation alone. -/
theorem createdAt_of_not_drawn {d : Directory} {steps : List (Clock × Operation)} {id : Uuid}
    {o : Operator} (undrawn : id ∉ drawn (d.history steps))
    (present : (d.run steps).get? id = some o) :
    (d.get? id).map Operator.createdAt = some o.createdAt := by
  have written := Register.createdAt.or_read_run d steps present
  have unwritten : Register.createdAt.last? id (d.history steps) = none := by
    refine List.findSome?_eq_none_iff.mpr fun e mem => ?_
    rw [createdAt_written?, if_neg]
    intro again
    exact undrawn (List.mem_filterMap.mpr ⟨e, List.mem_reverse.mp mem, again⟩)
  rw [unwritten, Option.none_or] at written
  exact written

/-- Where no identifier is drawn twice, a record that is there has been there since it was drawn,
and the time of its creation has not changed. -/
theorem createdAt_unchanged {p : Option AdminProfile} {earlier later : List (Clock × Operation)}
    (fresh : DrawsFresh p (earlier ++ later)) {id : Uuid} {before after : Operator}
    (hbefore : ((initial p).run earlier).get? id = some before)
    (hafter : ((initial p).run (earlier ++ later)).get? id = some after) :
    after.createdAt = before.createdAt := by
  have undrawn : id ∉ drawn (((initial p).run earlier).history later) := by
    intro drawnLater
    have inUse : id ∈ initialIds p ++ drawn ((initial p).history earlier) :=
      List.mem_append.mpr ((drawn_or_initial hbefore).symm.imp_left get?_initial_isSome_iff.mp)
    rw [DrawsFresh, history_append, drawn, List.filterMap_append, ← List.append_assoc,
      List.nodup_append] at fresh
    exact fresh.2.2 id inUse id drawnLater rfl
  rw [run_append] at hafter
  have same := createdAt_of_not_drawn undrawn hafter
  rw [hbefore] at same
  exact (Option.some.inj same).symm

/-- Before the first operation no record has been changed since its creation. -/
theorem updatedAt_initial {p : Option AdminProfile} {id : Uuid} {o : Operator}
    (present : (initial p).get? id = some o) : o.updatedAt = o.createdAt := by
  cases p with
  | none => cases present
  | some p =>
      have mem := get?_eq_some_iff.mp present
      simp only [initial, seeded, List.mem_singleton, Prod.mk.injEq] at mem
      rw [mem.2]
      rfl

/-- The time of the last change of a record after a run. -/
theorem updatedAt_run_initial {p : Option AdminProfile} {steps : List (Clock × Operation)}
    {id : Uuid} {o : Operator} (present : ((initial p).run steps).get? id = some o) :
    (lastTouch? id ((initial p).history steps)).getD o.createdAt = o.updatedAt := by
  have created := Register.createdAt.or_read_run _ steps present
  have updated := Register.updatedAt.or_read_run _ steps present
  rw [updatedAt_last?, Option.or_assoc] at updated
  cases touch : lastTouch? id ((initial p).history steps) with
  | some now =>
      rw [touch] at updated
      exact Option.some.inj updated
  | none =>
      have same : ((initial p).get? id).map Register.updatedAt.read
          = ((initial p).get? id).map Register.createdAt.read := by
        cases first : (initial p).get? id with
        | none => rfl
        | some _ => exact congrArg some (updatedAt_initial first)
      rw [touch, Option.none_or, same, created] at updated
      exact Option.some.inj updated

/-- After every run, each part of each record holds the value last written to it: by the first
operator or the creation, by a patch that has the field, or, for the state, by a change of state
that lists the operator. The time of the last change is that of the last successful patch or change
of state since the creation, and otherwise that of the creation. Where no identifier is drawn
twice, the time of creation never changes. -/
theorem records_hold_last_writes (p : Option AdminProfile) (steps : List (Clock × Operation))
    (id : Uuid) (o : Operator) (present : ((initial p).run steps).get? id = some o) :
    Register.firstName.after p steps id = some o.firstName
      ∧ Register.lastName.after p steps id = some o.lastName
      ∧ Register.username.after p steps id = some o.username
      ∧ Register.email.after p steps id = some o.email
      ∧ Register.phoneNumber.after p steps id = some o.phoneNumber
      ∧ Register.role.after p steps id = some o.role
      ∧ Register.status.after p steps id = some o.status
      ∧ Register.createdAt.after p steps id = some o.createdAt
      ∧ (lastTouch? id ((initial p).history steps)).getD o.createdAt = o.updatedAt
      ∧ (DrawsFresh p steps →
          ∀ earlier later before, steps = earlier ++ later →
            ((initial p).run earlier).get? id = some before → before.createdAt = o.createdAt) := by
  have holds {α : Type} (r : Register α) : r.after p steps id = some (r.read o) :=
    r.or_read_run (initial p) steps present
  refine ⟨holds _, holds _, holds _, holds _, holds _, holds _, holds _, holds _,
    updatedAt_run_initial present, ?_⟩
  rintro fresh earlier later before rfl hbefore
  exact (createdAt_unchanged fresh hbefore present).symm

/-! ### A run with a refusal and an operator listed twice -/

/-- The start of the sixtieth second after a given minute of 1970-01-01. -/
def minute (n : Fin 60) : Instant :=
  ⟨60 * n.val, 0, by revert n; decide⟩

/-- Two operators are created, one is patched, and both are listed for a change of state, the first
twice; the second creation under a used name is refused. -/
def sampleSteps : List (Clock × Operation) :=
  let ada : NewOperator := ⟨"Ada", "L", "ada", "ada@x", "1", .admin, .active⟩
  let eve : NewOperator := ⟨"Eve", "M", "eve", "eve@x", "2", .cashier, .invited⟩
  [ (Clock.steady (minute 1), .create (.ofNat 1) ada),
    (Clock.steady (minute 2), .create (.ofNat 2) eve),
    (Clock.steady (minute 3), .create (.ofNat 3) { eve with username := "ADA" }),
    (Clock.steady (minute 4), .update (.ofNat 1) { lastName := some "Lovelace" }),
    (fun n => if n < 2 then minute 5 else minute 6,
      .bulkStatus [.ofNat 1, .ofNat 2, .ofNat 1, .ofNat 9] .suspended) ]

theorem records_hold_last_writes_sample :
    ∃ o before, ((initial none).run sampleSteps).get? (.ofNat 1) = some o
      ∧ ((initial none).run (sampleSteps.take 1)).get? (.ofNat 1) = some before
      ∧ DrawsFresh none sampleSteps
      ∧ Register.lastName.after none sampleSteps (.ofNat 1) = some "Lovelace"
      ∧ Register.status.after none sampleSteps (.ofNat 1) = some .suspended
      ∧ (lastTouch? (.ofNat 1) ((initial none).history sampleSteps)).getD (minute 1) = minute 6
      ∧ before.createdAt = o.createdAt := by
  let o : Operator := ⟨.ofNat 1, "Ada", "Lovelace", "ada", "ada@x", "1", .suspended, .admin,
    minute 1, minute 6⟩
  have present : ((initial none).run sampleSteps).get? (.ofNat 1) = some o := by decide +kernel
  have first : ((initial none).run (sampleSteps.take 1)).get? (.ofNat 1)
      = some { o with lastName := "L", status := .active, updatedAt := minute 1 } := by
    decide +kernel
  have fresh : DrawsFresh none sampleSteps := by decide +kernel
  obtain ⟨-, lastName, -, -, -, -, status, -, updatedAt, unchanged⟩ :=
    records_hold_last_writes none sampleSteps (.ofNat 1) o present
  exact ⟨o, _, present, first, fresh, lastName, status, updatedAt,
    unchanged fresh _ _ _ (List.take_append_drop 1 sampleSteps).symm first⟩

end StudyHall.Directory
