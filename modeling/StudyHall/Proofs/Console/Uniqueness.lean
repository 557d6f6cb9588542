import StudyHall.Console.DirectoryRun

/-!
# Keys, user names and addresses in a directory

The type of directories says that no key stands twice. That a key is the id of its record, and that
user names and e-mail addresses differ up to case, is kept by the operations: an insertion and a
modification are allowed only when the text they bring in is not taken, and `taken` leaves out the
record with the id in question, so that the second fact rests on the first.

## Main results

* `Distinct.insert`, `Distinct.modify`, `Distinct.erase` — what one change of an entry needs to
  keep a field without repetitions.
* `Orderly.performUnder` — every operation keeps a directory orderly.
* `orderly_run_initial` — every directory that a run leads to is orderly.
-/

namespace StudyHall.Directory

open Text

variable {d : Directory} {field : Operator → String}

/-- Every key is the id of its record. -/
def Keyed (d : Directory) : Prop :=
  ∀ ⦃id o⦄, d.get? id = some o → o.id = id

/-- No two records agree in a field, not even up to case. -/
def Distinct (d : Directory) (field : Operator → String) : Prop :=
  ∀ ⦃i j a b⦄, d.get? i = some a → d.get? j = some b → i ≠ j →
    lowercase (field a) ≠ lowercase (field b)

/-- Keys are ids, and neither user names nor e-mail addresses are repeated. -/
structure Orderly (d : Directory) : Prop where
  keyed : d.Keyed
  usernames : d.Distinct Operator.username
  emails : d.Distinct Operator.email

/-! ## One entry changed -/

theorem Keyed.insert (keyed : d.Keyed) (o : Operator) : (d.insert o).Keyed := by
  intro id p hp
  rw [get?_insert] at hp
  split at hp
  · next same =>
      cases hp
      exact same.symm
  · exact keyed hp

theorem Keyed.erase (keyed : d.Keyed) (key : Uuid) : (d.erase key).Keyed := by
  intro id p hp
  rw [get?_erase] at hp
  split at hp
  · cases hp
  · exact keyed hp

theorem Keyed.modify (keyed : d.Keyed) (key : Uuid) {f : Operator → Operator}
    (keeps : ∀ o, (f o).id = o.id) : (d.modify key f).Keyed := by
  intro id p hp
  rw [get?_modify] at hp
  split at hp
  · obtain ⟨o, ho, rfl⟩ := Option.map_eq_some_iff.mp hp
    rw [keeps]
    exact keyed ho
  · exact keyed hp

/-- A text that is not taken differs from that of every record, the excepted one aside. -/
theorem ne_of_not_taken {text : String} {except : Option Uuid}
    (free : d.taken field text except = false) {id : Uuid} {o : Operator}
    (ho : d.get? id = some o) (other : some o.id ≠ except) :
    lowercase (field o) ≠ lowercase text := by
  intro same
  have found : d.taken field text except = true := taken_eq_true_iff.mpr ⟨id, o, ho, other, same⟩
  rw [free] at found
  exact Bool.noConfusion found

theorem Distinct.insert (distinct : d.Distinct field) {o : Operator}
    (free : d.taken field (field o) none = false) : (d.insert o).Distinct field := by
  have differs {i : Uuid} {a : Operator} (ha : d.get? i = some a) :
      lowercase (field a) ≠ lowercase (field o) := ne_of_not_taken free ha (by simp)
  intro i j a b ha hb hij
  rw [get?_insert] at ha hb
  split at ha
  · next hi =>
      cases ha
      rw [if_neg fun hj => hij (hi.trans hj.symm)] at hb
      exact (differs hb).symm
  · split at hb
    · cases hb
      exact differs ha
    · exact distinct ha hb hij

theorem Distinct.erase (distinct : d.Distinct field) (key : Uuid) :
    (d.erase key).Distinct field := by
  intro i j a b ha hb hij
  rw [get?_erase] at ha hb
  split at ha
  · cases ha
  · split at hb
    · cases hb
    · exact distinct ha hb hij

/-- A modification may leave the field of its record alone or bring in a text that no other record
has. -/
theorem Distinct.modify (distinct : d.Distinct field) (keyed : d.Keyed) {key : Uuid}
    {f : Operator → Operator}
    (allowed : ∀ o, d.get? key = some o →
      field (f o) = field o ∨ d.taken field (field (f o)) (some key) = false) :
    (d.modify key f).Distinct field := by
  have differs {o b : Operator} {j : Uuid} (ho : d.get? key = some o) (hb : d.get? j = some b)
      (hj : j ≠ key) : lowercase (field b) ≠ lowercase (field (f o)) := by
    cases allowed o ho with
    | inl same =>
        rw [same]
        exact distinct hb ho hj
    | inr free =>
        refine ne_of_not_taken free hb ?_
        rw [keyed hb]
        exact fun e => hj (Option.some.inj e)
  intro i j a b ha hb hij
  rw [get?_modify] at ha hb
  split at ha
  · next hi =>
      obtain ⟨o, ho, rfl⟩ := Option.map_eq_some_iff.mp ha
      have hj : j ≠ key := fun hj => hij (hi.trans hj.symm)
      rw [if_neg hj] at hb
      exact (differs (hi ▸ ho) hb hj).symm
  · next hi =>
      split at hb
      · next hj =>
          obtain ⟨o, ho, rfl⟩ := Option.map_eq_some_iff.mp hb
          exact differs (hj ▸ ho) ha hi
      · exact distinct ha hb hij

/-! ## Operations -/

namespace Orderly

theorem empty : Directory.empty.Orderly where
  keyed := by simp [Keyed, get?, Directory.empty]
  usernames := by simp [Distinct, get?, Directory.empty]
  emails := by simp [Distinct, get?, Directory.empty]

theorem insert (orderly : d.Orderly) {o : Operator}
    (freeName : d.usernameTaken o.username none = false)
    (freeEmail : d.emailTaken o.email none = false) : (d.insert o).Orderly where
  keyed := orderly.keyed.insert o
  usernames := orderly.usernames.insert freeName
  emails := orderly.emails.insert freeEmail

/-- With a single record there is nothing that it could agree with. -/
theorem seeded (p : AdminProfile) : (Directory.seeded p).Orderly := by
  have alone : Directory.seeded p = Directory.empty.insert p.toOperator := rfl
  rw [alone]
  exact empty.insert rfl rfl

theorem erase (orderly : d.Orderly) (id : Uuid) : (d.erase id).Orderly where
  keyed := orderly.keyed.erase id
  usernames := orderly.usernames.erase id
  emails := orderly.emails.erase id

/-- The check of one field of a patch: either the text stays, or it is not taken. -/
theorem allowed_of_check {id : Uuid} {o : Operator} {text : Option String}
    (check : (text.any fun n => n != field o && d.taken field n (some id)) = false) :
    text.getD (field o) = field o ∨ d.taken field (text.getD (field o)) (some id) = false := by
  cases text with
  | none => exact .inl rfl
  | some n =>
      by_cases same : n = field o
      · exact .inl same
      · exact .inr (by simpa [same] using check)

theorem update (orderly : d.Orderly) {id : Uuid} {patch : OperatorPatch} {current : Operator}
    (now : Instant) (present : d.get? id = some current)
    (nameCheck :
      (patch.username.any fun n => n != current.username && d.usernameTaken n (some id)) = false)
    (emailCheck :
      (patch.email.any fun e => e != current.email && d.emailTaken e (some id)) = false) :
    (d.modify id (patch.apply now)).Orderly := by
  refine ⟨orderly.keyed.modify id fun _ => rfl,
    orderly.usernames.modify orderly.keyed fun o ho => ?_,
    orderly.emails.modify orderly.keyed fun o ho => ?_⟩
  · cases present.symm.trans ho
    exact allowed_of_check nameCheck
  · cases present.symm.trans ho
    exact allowed_of_check emailCheck

theorem setStatus (orderly : d.Orderly) (id : Uuid) (status : OperatorStatus) (now : Instant) :
    (d.modify id (Operator.setStatus status now)).Orderly where
  keyed := orderly.keyed.modify id fun _ => rfl
  usernames := orderly.usernames.modify orderly.keyed fun _ _ => .inl rfl
  emails := orderly.emails.modify orderly.keyed fun _ _ => .inl rfl

theorem bulkStatus (orderly : d.Orderly) (clock : Clock) (status : OperatorStatus)
    (ids : List Uuid) : (d.bulkStatus clock status ids).2.Orderly := by
  induction ids generalizing d clock with
  | nil => exact orderly
  | cons id ids ih =>
      unfold Directory.bulkStatus
      split
      · exact ih (orderly.setStatus id status clock.first) clock.later
      · exact ih orderly clock.later

theorem bulkDelete (orderly : d.Orderly) (ids : List Uuid) : (d.bulkDelete ids).2.Orderly := by
  induction ids generalizing d with
  | nil => exact orderly
  | cons id ids ih =>
      unfold Directory.bulkDelete
      split
      · exact ih (orderly.erase id)
      · exact ih orderly

/-- Every operation keeps a directory orderly, whatever its arguments and its answer. -/
theorem performUnder (orderly : d.Orderly) (clock : Clock) (op : Operation) :
    (d.performUnder clock op).2.Orderly := by
  have outcome := d.outcome_performUnder clock op
  generalize (d.performUnder clock op).1 = answer, (d.performUnder clock op).2 = after at outcome ⊢
  cases outcome with
  | created freeName freeEmail => exact orderly.insert freeName freeEmail
  | updated present nameCheck emailCheck => exact orderly.update _ present nameCheck emailCheck
  | deleted present => exact orderly.erase _
  | statusSet => exact orderly.bulkStatus clock _ _
  | removed => exact orderly.bulkDelete _
  | unchanged => exact orderly

theorem run (orderly : d.Orderly) (steps : List (Clock × Operation)) : (d.run steps).Orderly := by
  induction steps generalizing d with
  | nil => exact orderly
  | cons step steps ih => exact ih (orderly.performUnder step.1 step.2)

end Orderly

theorem orderly_initial (p : Option AdminProfile) : (initial p).Orderly := by
  cases p with
  | none => exact Orderly.empty
  | some p => exact Orderly.seeded p

/-- However operations follow each other, from the first operator alone or from nobody, keys stay
the ids of their records and no two operators share a user name or an e-mail address. -/
theorem orderly_run_initial (p : Option AdminProfile) (steps : List (Clock × Operation)) :
    ((initial p).run steps).Orderly :=
  (orderly_initial p).run steps

end StudyHall.Directory
