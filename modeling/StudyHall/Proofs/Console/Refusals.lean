import StudyHall.Proofs.Console.Uniqueness

/-!
# What the directory refuses

An operation on one operator is refused for a cause that can be read off the records. A creation
asks for a user name and an e-mail address that nobody has, a patch for texts that nobody else has,
and both of them and a deletion need the operator that they name. Of two causes the first in this
order is told, and nothing else is ever refused.

The check of a patch passes over a text that its record has already. In a directory where the field
is not repeated nobody else has that text, so a check of every text in the patch would come to the
same. That the field is not repeated holds because the directory is one that a run leads to; in a
directory with two records of one name the two checks differ.

## Main results

* `taken_none_iff`, `taken_some_iff` — what a text that is taken says about the records.
* `update_eq_updateChecked` — the short cut in the check of a patch.
* `create_eq_error_iff`, `update_eq_error_iff`, `delete_eq_error_iff` — when the three operations
  are refused, and why.
* `refusals_decided` — the same for every operation on every directory that a run leads to.
-/

namespace StudyHall.Directory

open Text

variable {d : Directory} {field : Operator → String} {text : String} {id : Uuid}

/-! ## Texts in use -/

/-- Some record has a text in a field, up to case. -/
def Has (d : Directory) (field : Operator → String) (text : String) : Prop :=
  ∃ id o, d.get? id = some o ∧ lowercase (field o) = lowercase text

/-- Some record other than that of `id` has a text in a field, up to case. -/
def HasBeside (d : Directory) (id : Uuid) (field : Operator → String) (text : String) : Prop :=
  ∃ other o, other ≠ id ∧ d.get? other = some o ∧ lowercase (field o) = lowercase text

theorem taken_none_iff : d.taken field text none = true ↔ d.Has field text := by
  rw [taken_eq_true_iff]
  constructor
  · rintro ⟨id, o, present, -, same⟩
    exact ⟨id, o, present, same⟩
  · rintro ⟨id, o, present, same⟩
    exact ⟨id, o, present, by simp, same⟩

/-- The excepted record is told by its id, which is also its key. -/
theorem taken_some_iff (keyed : d.Keyed) :
    d.taken field text (some id) = true ↔ d.HasBeside id field text := by
  rw [taken_eq_true_iff]
  constructor
  · rintro ⟨other, o, present, apart, same⟩
    rw [keyed present] at apart
    exact ⟨other, o, fun eq => apart (congrArg some eq), present, same⟩
  · rintro ⟨other, o, apart, present, same⟩
    refine ⟨other, o, present, ?_, same⟩
    rw [keyed present]
    exact fun eq => apart (Option.some.inj eq)

/-- Where a field is not repeated, nobody else has the text of a record. -/
theorem not_hasBeside_self (distinct : d.Distinct field) {o : Operator}
    (present : d.get? id = some o) : ¬ d.HasBeside id field (field o) := by
  rintro ⟨other, p, apart, found, same⟩
  exact distinct found present apart same

/-! ## The short cut -/

/-- A patch of one operator where every text in it is checked. -/
def updateChecked (d : Directory) (id : Uuid) (now : Instant) (patch : OperatorPatch) :
    Except ConsoleError (Operator × Directory) :=
  match d.get? id with
  | none => .error .userNotFound
  | some o =>
      if patch.username.any fun n => d.usernameTaken n (some id) then .error .duplicateUsername
      else if patch.email.any fun e => d.emailTaken e (some id) then .error .duplicateEmail
      else .ok (patch.apply now o, d.modify id (patch.apply now))

/-- The check of one field of a patch, with the short cut and without it. -/
theorem check_eq (keyed : d.Keyed) (distinct : d.Distinct field) {o : Operator}
    (present : d.get? id = some o) (given : Option String) :
    (given.any fun n => n != field o && d.taken field n (some id))
      = given.any fun n => d.taken field n (some id) := by
  cases given with
  | none => rfl
  | some n =>
      by_cases same : n = field o
      · have free : d.taken field n (some id) = false := by
          rw [same, ← Bool.not_eq_true, taken_some_iff keyed]
          exact not_hasBeside_self distinct present
        simp only [Option.any_some, free, Bool.and_false]
      · simp only [Option.any_some, bne_iff_ne.mpr same, Bool.true_and]

/-- Passing over a text that the record has already never changes what becomes of a patch. -/
theorem update_eq_updateChecked (orderly : d.Orderly) (id : Uuid) (now : Instant)
    (patch : OperatorPatch) : d.update id now patch = d.updateChecked id now patch := by
  cases present : d.get? id with
  | none => simp only [update, updateChecked, present]
  | some o =>
      have name :
          (patch.username.any fun n => n != o.username && d.usernameTaken n (some id))
            = patch.username.any fun n => d.usernameTaken n (some id) :=
        check_eq orderly.keyed orderly.usernames present patch.username
      have email :
          (patch.email.any fun e => e != o.email && d.emailTaken e (some id))
            = patch.email.any fun e => d.emailTaken e (some id) :=
        check_eq orderly.keyed orderly.emails present patch.email
      simp only [update, updateChecked, present, name, email]

/-- Two records of one name, which no run leads to, and a patch that leaves the name as it is. -/
example :
    let ada : NewOperator := ⟨"Ada", "L", "ada", "ada@hall", "1", .admin, .active⟩
    let twins : Directory :=
      ⟨[(.ofNat 1, ada.toOperator (.ofNat 1) .epoch),
        (.ofNat 2, { ada with email := "l@hall" }.toOperator (.ofNat 2) .epoch)], by decide⟩
    let patch : OperatorPatch := { username := some "ada" }
    (twins.update (.ofNat 1) .epoch patch).isOk = true
      ∧ (twins.updateChecked (.ofNat 1) .epoch patch).isOk = false := by
  decide +kernel

/-! ## Causes -/

/-- A patch brings in a text for a field that somebody else has. -/
def ClashesWith (d : Directory) (id : Uuid) (field : Operator → String) (given : Option String) :
    Prop :=
  ∃ text, given = some text ∧ d.HasBeside id field text

/-- The causes for which an operation is refused, the first that applies. -/
inductive Refuses (d : Directory) : Operation → ConsoleError → Prop
  | usernameInUse {id : Uuid} {new : NewOperator} (name : d.Has Operator.username new.username) :
      Refuses d (.create id new) .duplicateUsername
  | emailInUse {id : Uuid} {new : NewOperator} (name : ¬ d.Has Operator.username new.username)
      (email : d.Has Operator.email new.email) : Refuses d (.create id new) .duplicateEmail
  | nobodyToUpdate {id : Uuid} {patch : OperatorPatch} (absent : d.get? id = none) :
      Refuses d (.update id patch) .userNotFound
  | usernameClash {id : Uuid} {patch : OperatorPatch} (present : d.get? id ≠ none)
      (name : d.ClashesWith id Operator.username patch.username) :
      Refuses d (.update id patch) .duplicateUsername
  | emailClash {id : Uuid} {patch : OperatorPatch} (present : d.get? id ≠ none)
      (name : ¬ d.ClashesWith id Operator.username patch.username)
      (email : d.ClashesWith id Operator.email patch.email) :
      Refuses d (.update id patch) .duplicateEmail
  | nobodyToDelete {id : Uuid} (absent : d.get? id = none) : Refuses d (.delete id) .userNotFound

theorem any_taken_iff (keyed : d.Keyed) (given : Option String) :
    (given.any fun n => d.taken field n (some id)) = true ↔ d.ClashesWith id field given := by
  cases given with
  | none => simp [ClashesWith]
  | some text =>
      rw [Option.any_some, taken_some_iff keyed]
      simp [ClashesWith]

theorem create_eq_error_iff (now : Instant) {new : NewOperator} {cause : ConsoleError} :
    d.create id now new = .error cause ↔ d.Refuses (.create id new) cause := by
  have name : d.usernameTaken new.username none = true ↔ d.Has Operator.username new.username :=
    taken_none_iff
  have email : d.emailTaken new.email none = true ↔ d.Has Operator.email new.email :=
    taken_none_iff
  unfold create
  constructor
  · intro refused
    split at refused
    · next inUse =>
        cases refused
        exact .usernameInUse (name.mp inUse)
    · next freeName =>
        split at refused
        · next inUse =>
            cases refused
            exact .emailInUse (fun has => freeName (name.mpr has)) (email.mp inUse)
        · cases refused
  · intro refuses
    cases refuses with
    | usernameInUse inUse => rw [if_pos (name.mpr inUse)]
    | emailInUse freeName inUse =>
        rw [if_neg fun taken => freeName (name.mp taken), if_pos (email.mpr inUse)]

theorem update_eq_error_iff (orderly : d.Orderly) (now : Instant) {patch : OperatorPatch}
    {cause : ConsoleError} :
    d.update id now patch = .error cause ↔ d.Refuses (.update id patch) cause := by
  have name : (patch.username.any fun n => d.usernameTaken n (some id)) = true
      ↔ d.ClashesWith id Operator.username patch.username := any_taken_iff orderly.keyed _
  have email : (patch.email.any fun e => d.emailTaken e (some id)) = true
      ↔ d.ClashesWith id Operator.email patch.email := any_taken_iff orderly.keyed _
  rw [update_eq_updateChecked orderly]
  unfold updateChecked
  constructor
  · intro refused
    split at refused
    · next absent =>
        cases refused
        exact .nobodyToUpdate absent
    · next o found =>
        have present : d.get? id ≠ none := by
          rw [found]
          exact Option.some_ne_none o
        split at refused
        · next clash =>
            cases refused
            exact .usernameClash present (name.mp clash)
        · next freeName =>
            split at refused
            · next clash =>
                cases refused
                exact .emailClash present (fun has => freeName (name.mpr has)) (email.mp clash)
            · cases refused
  · intro refuses
    cases refuses with
    | nobodyToUpdate absent => rw [absent]
    | usernameClash present clash =>
        obtain ⟨o, found⟩ := Option.ne_none_iff_exists'.mp present
        simp only [found]
        rw [if_pos (name.mpr clash)]
    | emailClash present freeName clash =>
        obtain ⟨o, found⟩ := Option.ne_none_iff_exists'.mp present
        simp only [found]
        rw [if_neg fun taken => freeName (name.mp taken), if_pos (email.mpr clash)]

theorem delete_eq_error_iff {cause : ConsoleError} :
    d.delete id = .error cause ↔ d.Refuses (.delete id) cause := by
  unfold delete
  constructor
  · intro refused
    split at refused
    · next absent =>
        cases refused
        exact .nobodyToDelete absent
    · cases refused
  · intro refuses
    cases refuses with
    | nobodyToDelete absent => rw [absent]

/-! ## Operations -/

/-- Only the operations on one operator are ever refused, and these for the causes told. -/
theorem performUnder_refused_iff (orderly : d.Orderly) (clock : Clock) {op : Operation}
    {cause : ConsoleError} :
    (d.performUnder clock op).1 = .failed (.refused cause) ↔ d.Refuses op cause := by
  cases op with
  | create key new =>
      rw [← create_eq_error_iff clock.first]
      cases done : d.create key clock.first new with
      | error e => simp [performUnder, done]
      | ok result => simp [performUnder, done]
  | update key patch =>
      rw [← update_eq_error_iff orderly clock.first]
      cases done : d.update key clock.first patch with
      | error e => simp [performUnder, done]
      | ok result => simp [performUnder, done]
  | delete key =>
      rw [← delete_eq_error_iff]
      cases done : d.delete key with
      | error e => simp [performUnder, done]
      | ok after => simp [performUnder, done]
  | bulkStatus ids status =>
      exact iff_of_false (fun refused => by cases refused) fun refuses => by cases refuses
  | bulkDelete ids =>
      exact iff_of_false (fun refused => by cases refused) fun refuses => by cases refuses
  | list f => exact iff_of_false (fun refused => by cases refused) fun refuses => by cases refuses
  | get key => exact iff_of_false (fun refused => by cases refused) fun refuses => by cases refuses
  | isEmpty => exact iff_of_false (fun refused => by cases refused) fun refuses => by cases refuses
  | invite email role =>
      refine iff_of_false (fun refused => ?_) fun refuses => by cases refuses
      simp only [performUnder] at refused
      split at refused <;> cases refused

/-- An operation that is no query fails only by being refused. -/
theorem refused_of_failed {clock : Clock} {op : Operation} {fault : Fault ConsoleError}
    (acts : op.isQuery = false) (failed : (d.performUnder clock op).1 = .failed fault) :
    ∃ cause, fault = .refused cause := by
  cases op with
  | create key new =>
      cases done : d.create key clock.first new with
      | error e =>
          simp only [performUnder, done, Answer.failed.injEq] at failed
          exact ⟨e, failed.symm⟩
      | ok result => simp [performUnder, done] at failed
  | update key patch =>
      cases done : d.update key clock.first patch with
      | error e =>
          simp only [performUnder, done, Answer.failed.injEq] at failed
          exact ⟨e, failed.symm⟩
      | ok result => simp [performUnder, done] at failed
  | delete key =>
      cases done : d.delete key with
      | error e =>
          simp only [performUnder, done, Answer.failed.injEq] at failed
          exact ⟨e, failed.symm⟩
      | ok after => simp [performUnder, done] at failed
  | bulkStatus ids status => cases failed
  | bulkDelete ids => cases failed
  | list f => cases acts
  | get key => cases acts
  | isEmpty => cases acts
  | invite email role => cases acts

/-- On every directory that a run leads to, an operation is refused exactly for the cause that its
records give, and an operation that acts and is given no cause succeeds. What fails leaves the
directory as it is. That a patch is checked only where it differs from its record is never to be
seen. -/
theorem refusals_decided (p : Option AdminProfile) (steps : List (Clock × Operation))
    (clock : Clock) (op : Operation) :
    let d := (initial p).run steps
    (∀ cause, (d.performUnder clock op).1 = .failed (.refused cause) ↔ d.Refuses op cause)
      ∧ (op.isQuery = false → (∀ cause, ¬ d.Refuses op cause) →
          ∀ fault, (d.performUnder clock op).1 ≠ .failed fault)
      ∧ (∀ fault, (d.performUnder clock op).1 = .failed fault → (d.performUnder clock op).2 = d)
      ∧ ∀ id now patch, d.update id now patch = d.updateChecked id now patch := by
  intro d
  have orderly : d.Orderly := (orderly_initial p).run steps
  refine ⟨fun cause => performUnder_refused_iff orderly clock, ?_,
    fun fault failed => performUnder_failed failed, update_eq_updateChecked orderly⟩
  intro acts free fault failed
  obtain ⟨cause, rfl⟩ := refused_of_failed acts failed
  have refuses : d.Refuses op cause := (performUnder_refused_iff orderly clock).mp failed
  exact free cause refuses

end StudyHall.Directory
