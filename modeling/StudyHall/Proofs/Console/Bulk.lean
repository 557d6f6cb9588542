import StudyHall.Proofs.Console.LastWrite

/-!
# Many operators at once and one after the other

A change of many states and a removal of many operators are loops of their own: they neither check
texts that might be in use nor go through the fields of a patch. Still they come to the same as the
operations on one operator, carried out for each listed id in turn, where an id that nobody has is
refused and changes nothing. While the clock stands still, what a loop leaves behind depends only
on which ids are listed, for a record that has been changed or removed is not changed again by
being listed once more. The number of changed states does depend on it, since every mention of an
operator counts; the number of removals does not.

## Main results

* `eq_inTurn_of_step` — when a loop over ids is one operation for each of them in turn.
* `bulkStatus_eq_updates`, `bulkDelete_eq_deletions` — a loop and the single operations in turn
  agree in the directory and in the number of successes.
* `entries_bulkStatus`, `entries_bulkDelete` — what the loops leave behind, without a loop.
* `bulk_agrees_with_single` — all of this for every directory.
-/

namespace StudyHall.Directory

variable {d : Directory} {id : Uuid}

theorem eq_of_entries {d d' : Directory} (same : d.entries = d'.entries) : d = d' := by
  cases d
  cases d'
  cases same
  rfl

/-! ## Operations in turn -/

/-- One operation for each id, each under the clock from its turn on. -/
def inTurn (op : Uuid → Operation) : Clock → List Uuid → List (Clock × Operation)
  | _, [] => []
  | clock, id :: ids => (clock, op id) :: inTurn op clock.later ids

/-- A patch of the state alone. -/
def statusPatch (status : OperatorStatus) : OperatorPatch :=
  { status := some status }

/-- Whether an event is that of an operation that did not fail. -/
def Event.succeeded (e : Event) : Bool :=
  match e.answer with
  | .failed _ => false
  | _ => true

/-- An operation that is refused because nobody has the id. -/
def Event.findsNobody (e : Event) : Prop :=
  e.answer = .failed (.refused .userNotFound)

/-- A patch of the state alone brings in no text, so nothing is checked but the id. -/
theorem performUnder_statusPatch (d : Directory) (clock : Clock) (id : Uuid)
    (status : OperatorStatus) :
    d.performUnder clock (.update id (statusPatch status)) =
      match d.get? id with
      | none => (.failed (.refused .userNotFound), d)
      | some o => (.operator (o.setStatus status clock.first),
          d.modify id (Operator.setStatus status clock.first)) := by
  cases present : d.get? id with
  | none => simp only [performUnder, update, present]
  | some o =>
      have done : d.update id clock.first (statusPatch status)
          = .ok (o.setStatus status clock.first,
              d.modify id (Operator.setStatus status clock.first)) :=
        update_eq_ok_iff.mpr ⟨o, present, rfl, rfl, rfl, rfl⟩
      simp only [performUnder, done]

theorem performUnder_delete (d : Directory) (clock : Clock) (id : Uuid) :
    d.performUnder clock (.delete id) =
      match d.get? id with
      | none => (.failed (.refused .userNotFound), d)
      | some _ => (.deleted, d.erase id) := by
  cases present : d.get? id with
  | none => simp only [performUnder, delete, present]
  | some o => simp only [performUnder, delete, present]

/-- A loop over ids which at each id does what the operation does, and counts the id unless the
operation fails, is the operations in turn. -/
theorem eq_inTurn_of_step (op : Uuid → Operation)
    (loop : Directory → Clock → List Uuid → Nat × Directory)
    (stop : ∀ d clock, loop d clock [] = (0, d))
    (step : ∀ (d : Directory) clock id ids,
      let e : Event := ⟨clock, op id, (d.performUnder clock (op id)).1⟩
      let rest := loop (d.performUnder clock (op id)).2 clock.later ids
      loop d clock (id :: ids) = (rest.1 + (if e.succeeded = true then 1 else 0), rest.2))
    (d : Directory) (clock : Clock) (ids : List Uuid) :
    loop d clock ids = ((d.history (inTurn op clock ids)).countP Event.succeeded,
      d.run (inTurn op clock ids)) := by
  induction ids generalizing d clock with
  | nil => exact stop d clock
  | cons id ids ih => simp only [step, ih, inTurn, history, run, List.countP_cons]

/-- A change of many states is the patches of the state, one after the other, each at the reading
of the clock at its turn. -/
theorem bulkStatus_eq_updates (d : Directory) (clock : Clock) (status : OperatorStatus)
    (ids : List Uuid) :
    let updates := inTurn (fun id => .update id (statusPatch status)) clock ids
    d.bulkStatus clock status ids
      = ((d.history updates).countP Event.succeeded, d.run updates) := by
  refine eq_inTurn_of_step (fun id => .update id (statusPatch status))
    (fun d clock ids => d.bulkStatus clock status ids)
    (fun d clock => rfl) (fun d clock id ids => ?_) d clock ids
  simp only [bulkStatus, performUnder_statusPatch]
  cases d.get? id with
  | none => rfl
  | some o => rfl

/-- A removal of many operators is the deletions one after the other. -/
theorem bulkDelete_eq_deletions (d : Directory) (clock : Clock) (ids : List Uuid) :
    let deletions := inTurn .delete clock ids
    d.bulkDelete ids = ((d.history deletions).countP Event.succeeded, d.run deletions) := by
  refine eq_inTurn_of_step .delete (fun d _ ids => d.bulkDelete ids)
    (fun d clock => rfl) (fun d clock id ids => ?_) d clock ids
  simp only [bulkDelete, performUnder_delete]
  cases d.get? id with
  | none => rfl
  | some o => rfl

/-- Operations in turn of which each finds nobody or does not fail. -/
theorem findsNobody_of_inTurn {op : Uuid → Operation}
    (one : ∀ (d : Directory) (clock : Clock) (id : Uuid),
      let e : Event := ⟨clock, op id, (d.performUnder clock (op id)).1⟩
      e.succeeded = true ∨ e.findsNobody)
    (d : Directory) (clock : Clock) (ids : List Uuid) {e : Event}
    (mem : e ∈ d.history (inTurn op clock ids)) : e.succeeded = true ∨ e.findsNobody := by
  induction ids generalizing d clock with
  | nil => cases mem
  | cons id ids ih =>
      rcases List.mem_cons.mp mem with rfl | later
      · exact one d clock id
      · exact ih _ _ later

theorem findsNobody_of_updates (d : Directory) (clock : Clock) (status : OperatorStatus)
    (ids : List Uuid) {e : Event}
    (mem : e ∈ d.history (inTurn (fun id => .update id (statusPatch status)) clock ids)) :
    e.succeeded = true ∨ e.findsNobody := by
  refine findsNobody_of_inTurn (fun d clock id => ?_) d clock ids mem
  rw [performUnder_statusPatch]
  cases d.get? id with
  | none => exact .inr rfl
  | some o => exact .inl rfl

theorem findsNobody_of_deletions (d : Directory) (clock : Clock) (ids : List Uuid) {e : Event}
    (mem : e ∈ d.history (inTurn .delete clock ids)) : e.succeeded = true ∨ e.findsNobody := by
  refine findsNobody_of_inTurn (fun d clock id => ?_) d clock ids mem
  rw [performUnder_delete]
  cases d.get? id with
  | none => exact .inr rfl
  | some o => exact .inl rfl

/-! ## What the loops leave behind -/

theorem ne_of_absent (absent : d.get? id = none) {e : Uuid × Operator} (mem : e ∈ d.entries) :
    e.1 ≠ id := by
  intro same
  have present : d.get? id = some e.2 := get?_eq_some_iff.mpr (same ▸ mem)
  rw [absent] at present
  cases present

/-- With the clock standing still, every listed operator has the state and the time, however often
and wherever in the list it stands. -/
theorem entries_bulkStatus (d : Directory) (now : Instant) (status : OperatorStatus)
    (ids : List Uuid) :
    (d.bulkStatus (Clock.steady now) status ids).2.entries
      = d.entries.map fun e => if e.1 ∈ ids then (e.1, e.2.setStatus status now) else e := by
  induction ids generalizing d with
  | nil => simp [bulkStatus]
  | cons id ids ih =>
      have still : (Clock.steady now).later = Clock.steady now := rfl
      unfold bulkStatus
      split
      · rw [still, ih]
        simp only [modify, List.map_map]
        refine List.map_congr_left fun e _ => ?_
        by_cases first : e.1 = id
        · by_cases again : e.1 ∈ ids
          · simp [first, first ▸ again, Operator.setStatus, Clock.first, Clock.steady]
          · simp [first, first ▸ again, Clock.first, Clock.steady]
        · simp [first]
      · next absent =>
          rw [still, ih]
          refine List.map_congr_left fun e mem => ?_
          simp only [List.mem_cons, ne_of_absent absent mem, false_or]

theorem entries_bulkDelete (d : Directory) (ids : List Uuid) :
    (d.bulkDelete ids).2.entries = d.entries.filter fun e => e.1 ∉ ids := by
  induction ids generalizing d with
  | nil => exact (List.filter_eq_self.mpr (by simp)).symm
  | cons id ids ih =>
      unfold bulkDelete
      split
      · simp only [ih, erase, List.filter_filter]
        refine List.filter_congr fun e _ => ?_
        by_cases first : e.1 = id
        · simp [first]
        · simp [first]
      · next absent =>
          rw [ih]
          refine List.filter_congr fun e mem => ?_
          simp only [List.mem_cons, ne_of_absent absent mem, false_or]

section SameIds

variable {ids listed : List Uuid}

theorem bulkStatus_of_mem_iff (same : ∀ id, id ∈ listed ↔ id ∈ ids) (d : Directory)
    (now : Instant) (status : OperatorStatus) :
    (d.bulkStatus (Clock.steady now) status listed).2
      = (d.bulkStatus (Clock.steady now) status ids).2 := by
  apply eq_of_entries
  rw [entries_bulkStatus, entries_bulkStatus]
  simp only [same]

/-- The number of removals is what the directory has lost. -/
theorem bulkDelete_of_mem_iff (same : ∀ id, id ∈ listed ↔ id ∈ ids) (d : Directory) :
    d.bulkDelete listed = d.bulkDelete ids := by
  have left : (d.bulkDelete listed).2 = (d.bulkDelete ids).2 := by
    apply eq_of_entries
    rw [entries_bulkDelete, entries_bulkDelete]
    simp only [same]
  have lost := size_bulkDelete d listed
  have lost' := size_bulkDelete d ids
  rw [left] at lost
  exact Prod.ext (by omega) left

end SameIds

/-- In every directory, a change of many states leaves what the patches of the state alone leave,
carried out for each listed id in turn at the same readings of the clock, and counts those that
succeed; a removal of many operators leaves what the deletions leave and counts those that succeed.
What fails among the single operations fails because nobody has the id. At one reading of the clock,
what the change leaves, and in any case what the removal leaves and counts, depends on which ids are
listed and not on their order or on how often they are. -/
theorem bulk_agrees_with_single (d : Directory) (clock : Clock) (status : OperatorStatus)
    (ids : List Uuid) :
    let updates := inTurn (fun id => .update id { status := some status }) clock ids
    let deletions := inTurn .delete clock ids
    d.bulkStatus clock status ids = ((d.history updates).countP Event.succeeded, d.run updates)
      ∧ d.bulkDelete ids = ((d.history deletions).countP Event.succeeded, d.run deletions)
      ∧ (∀ e ∈ d.history updates ++ d.history deletions, e.succeeded = true ∨ e.findsNobody)
      ∧ ∀ listed, (∀ id, id ∈ listed ↔ id ∈ ids) →
          (∀ now, (d.bulkStatus (Clock.steady now) status listed).2
            = (d.bulkStatus (Clock.steady now) status ids).2)
          ∧ d.bulkDelete listed = d.bulkDelete ids := by
  intro updates deletions
  refine ⟨bulkStatus_eq_updates d clock status ids, bulkDelete_eq_deletions d clock ids,
    fun e mem => ?_, fun listed same => ⟨fun now => ?_, bulkDelete_of_mem_iff same d⟩⟩
  · rcases List.mem_append.mp mem with update | deletion
    · exact findsNobody_of_updates d clock status ids update
    · exact findsNobody_of_deletions d clock ids deletion
  · exact bulkStatus_of_mem_iff same d now status

/-- An id that nobody has and one that stands twice, and the same ids in another order. -/
theorem bulk_agrees_with_single_sample :
    let d := (initial none).run sampleSteps
    let ids : List Uuid := [.ofNat 1, .ofNat 9, .ofNat 1, .ofNat 2]
    (d.bulkStatus (Clock.steady (minute 7)) .inactive [.ofNat 2, .ofNat 9, .ofNat 1]).2
        = (d.bulkStatus (Clock.steady (minute 7)) .inactive ids).2
      ∧ d.bulkDelete [.ofNat 2, .ofNat 9, .ofNat 1] = d.bulkDelete ids
      ∧ (d.bulkDelete ids).1 = 2
      ∧ (d.bulkStatus (Clock.steady (minute 7)) .inactive ids).1 = 3 := by
  intro d ids
  obtain ⟨-, -, -, regardless⟩ :=
    bulk_agrees_with_single d (Clock.steady (minute 7)) .inactive ids
  have same : ∀ id, id ∈ [Uuid.ofNat 2, .ofNat 9, .ofNat 1] ↔ id ∈ ids := by
    intro id
    simp only [ids, List.mem_cons, List.not_mem_nil, or_false]
    grind
  obtain ⟨states, removals⟩ := regardless _ same
  exact ⟨states (minute 7), removals, by decide +kernel, by decide +kernel⟩

end StudyHall.Directory
