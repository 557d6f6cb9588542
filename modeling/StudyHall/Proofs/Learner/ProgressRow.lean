import StudyHall.Proofs.Domain.Code
import StudyHall.Proofs.Learner.FailedSignIn
import StudyHall.Proofs.Learner.PageRuns

/-!
# The row of a learner's progress

Progress is stored in one row for each learner and exam, and three statements address such a row: a
sign-in has one, to mark the time of the last login or to make the row, and the page of the account
has one to read it. The sign-in writes the exam as the account has it stored. The page first reads
the stored text as an exam, with blanks and the case of letters passed over, and then writes the
code of that.

An account is meant to store a code, and those that the service makes do. Then both address the same
row. For an account that stores another spelling of an exam the two rows are different ones.

What a session sends is followed statement by statement, as the session is written; how it ends does
not matter here.

## Main results

* `progressRows_run` — the row that a sign-in addresses.
* `progressRows_me` — the row that the page of the account addresses.
* `same_progress_row_iff_code` — when the two are the same.
-/

namespace StudyHall

open Text

/-- The row of progress that a statement addresses, if it addresses one. -/
def Statement.progressRow? : Statement → Option (Uuid × String)
  | .createExamProfile id exam => some (id, exam)
  | .findExamProfile id exam => some (id, exam)
  | .touchLastLogin id exam => some (id, exam)
  | _ => none

/-! ## Rows that a session addresses -/

namespace Session

variable {α β : Type} {db : Database} {s : Statement} {f : s.Answer → Session β}

/-- The rows of progress that a session addresses, in the order of its statements. -/
def progressRows (x : Session α) (db : Database) : List (Uuid × String) :=
  (x db).1.filterMap Statement.progressRow?

/-- What follows a session adds nothing if it addresses no row. -/
theorem progressRows_bind {x : Session α} {g : α → Session β}
    (none : ∀ a, (g a).progressRows db = []) : (x >>= g).progressRows db = x.progressRows db := by
  change (Session.bind x g db).1.filterMap _ = _
  unfold progressRows Session.bind
  rcases x db with ⟨sent, fault | a⟩
  · rfl
  · have nothing : (g a db).1.filterMap Statement.progressRow? = [] := none a
    rw [List.filterMap_append, nothing, List.append_nil]

/-- A statement that is answered, and what follows it. -/
theorem progressRows_send_of_ok {a : s.Answer} (answered : db.reply s = .ok a) :
    (Session.send s >>= f).progressRows db
      = s.progressRow?.toList ++ (f a).progressRows db := by
  unfold progressRows
  rw [send_bind_of_ok answered]
  cases row : s.progressRow? with
  | none => exact List.filterMap_cons_none row
  | some r => exact List.filterMap_cons_some row

/-- A statement that is refused ends the session. It addresses its row if it gets to the
database. -/
theorem progressRows_send_of_error {text : String} (failed : db.reply s = .error text) :
    (Session.send s >>= f).progressRows db
      = (db.receives [s]).filterMap Statement.progressRow? := by
  change (Session.bind (Session.send s) f db).1.filterMap _ = _
  unfold Session.bind
  rw [send_of_error failed]

/-- A statement that addresses no row, and what follows an answer. -/
theorem progressRows_send_of_silent (silent : s.progressRow? = none) :
    (Session.send s >>= f).progressRows db
      = match db.reply s with
        | .ok a => (f a).progressRows db
        | .error _ => [] := by
  cases reply : db.reply s with
  | ok a => rw [progressRows_send_of_ok reply, silent, Option.toList_none, List.nil_append]
  | error text =>
      rw [progressRows_send_of_error reply]
      cases db with
      | unreachable => rfl
      | answering answer => exact List.filterMap_cons_none silent

/-- A statement that addresses a row, after which no row is addressed, with a database that can be
reached. -/
theorem progressRows_send_of_row {row : Uuid × String} (named : s.progressRow? = some row)
    (last : ∀ a, (f a).progressRows db = []) (reached : db.receives [s] = [s]) :
    (Session.send s >>= f).progressRows db = [row] := by
  cases reply : db.reply s with
  | ok a => rw [progressRows_send_of_ok reply, named, last a, Option.toList_some, List.append_nil]
  | error text =>
      rw [progressRows_send_of_error reply, reached]
      exact List.filterMap_cons_some named

end Session

open Session

/-! ## Signing in -/

namespace TelegramSignIn

variable (t : TelegramSignIn) (db : Database)

/-- The account that a sign-in has found or made in a database, as far as it comes to that. -/
def met? : Option UserRecord :=
  match db.reply .begin, db.reply (.findByTelegramId t.telegramId) with
  | .ok (), .ok (u :: _) => some u
  | .ok (), .ok [] =>
      match db.reply
          (.createTelegramUser t.displayName t.telegramId t.exam.code Role.user.code) with
      | .ok (u :: _) => some u
      | _ => none
  | _, _ => none

variable {t db}

theorem progressRows_welcomeBack {u : UserRecord}
    (reached : ∀ s, db.receives [s] = [s]) :
    (welcomeBack u).progressRows db = [(u.id, u.primaryExam)] :=
  progressRows_send_of_row rfl (fun _ => rfl) (reached _)

theorem progressRows_register (reached : ∀ s, db.receives [s] = [s]) :
    t.register.progressRows db
      = match db.reply
            (.createTelegramUser t.displayName t.telegramId t.exam.code Role.user.code) with
        | .ok (u :: _) => [(u.id, u.primaryExam)]
        | _ => [] := by
  unfold register
  rw [progressRows_send_of_silent rfl]
  cases db.reply (.createTelegramUser t.displayName t.telegramId t.exam.code Role.user.code) with
  | error text => rfl
  | ok rows =>
      cases rows with
      | nil => rfl
      | cons u rest => exact progressRows_send_of_row rfl (fun _ => rfl) (reached _)

/-- A sign-in addresses the row of the account that it has found or made, for the exam as the
account has it stored, and no other row. -/
theorem progressRows_run (tokens : TokenService) (now : Instant) :
    (t.run tokens now).progressRows db
      = (t.met? db).toList.map fun u => (u.id, u.primaryExam) := by
  have closing (x : Session UserRecord) :
      (x >>= fun u => do Session.send .commit; Session.pure u).progressRows db
        = x.progressRows db := by
    refine progressRows_bind fun u => ?_
    rw [progressRows_send_of_silent rfl]
    cases db.reply .commit <;> rfl
  have whole : (t.run tokens now).progressRows db = t.account.progressRows db :=
    progressRows_bind fun _ => rfl
  rw [whole, account, progressRows_send_of_silent rfl, met?]
  cases begun : db.reply .begin with
  | error text => rfl
  | ok a =>
      have reached (s : Statement) : db.receives [s] = [s] :=
        Database.receives_of_reply begun [s]
      simp only
      rw [progressRows_send_of_silent rfl]
      cases db.reply (.findByTelegramId t.telegramId) with
      | error text => rfl
      | ok rows =>
          cases rows with
          | nil =>
              refine (closing t.register).trans ((progressRows_register reached).trans ?_)
              rcases db.reply (.createTelegramUser t.displayName t.telegramId t.exam.code
                Role.user.code) with text | _ | ⟨u, rest⟩ <;> rfl
          | cons u rest => exact (closing (welcomeBack u)).trans (progressRows_welcomeBack reached)

end TelegramSignIn

/-! ## The page of the account -/

namespace LearnerPage

/-- The account of a learner as it can be shown, if a database has it. -/
def shown? (db : Database) (id : Uuid) : Option UserView :=
  match db.reply (.findById id) with
  | .ok (u :: _) => u.toView.toOption
  | _ => none

/-- The page of an account addresses the row for the exam that the stored text names, and no other
row. -/
theorem progressRows_me (id : Uuid) (query : List Char) (db : Database) :
    (me.view id query).progressRows db
      = (shown? db id).toList.map fun user => (user.id, user.primaryExam.code) := by
  have talked : me.view id query = (Question.account id).talk >>= Session.ofRefusal :=
    Question.account_eq_talk id
  rw [talked, progressRows_bind fun _ => rfl, Question.talk, progressRows_send_of_silent rfl,
    shown?]
  cases answered : db.reply (.findById id) with
  | error text => rfl
  | ok rows =>
      cases rows with
      | nil => rfl
      | cons u rest =>
          simp only [theFirst, List.head?_cons]
          cases u.toView with
          | error cause => rfl
          | ok user =>
              exact progressRows_send_of_row rfl (fun _ => rfl)
                (Database.receives_of_reply answered _)

end LearnerPage

/-! ## Main result -/

/-- Whatever else the database answers, a sign-in that has met an account addresses one row of
progress, the one for the text that the account has stored, and the page of the same account, if it
can be shown, addresses the one for the code of the exam that this text names. The two are the same
row exactly if the account stores a code. -/
theorem same_progress_row_iff_code (t : TelegramSignIn) (tokens : TokenService) (now : Instant)
    (id : Uuid) (query : List Char) {db db' : Database} {u : UserRecord} {rest : List UserRecord}
    {user : UserView} (met : t.met? db = some u)
    (found : db'.reply (.findById id) = .ok (u :: rest)) (viewed : u.toView = .ok user) :
    (t.run tokens now).progressRows db = [(u.id, u.primaryExam)]
      ∧ (LearnerPage.me.view id query).progressRows db' = [(u.id, user.primaryExam.code)]
      ∧ ((t.run tokens now).progressRows db = (LearnerPage.me.view id query).progressRows db'
        ↔ ∃ exam : Exam, u.primaryExam = exam.code) := by
  obtain ⟨own, read, -⟩ := TelegramSignIn.of_toView viewed
  have signIn : (t.run tokens now).progressRows db = [(u.id, u.primaryExam)] := by
    rw [TelegramSignIn.progressRows_run, met]
    rfl
  have shown : LearnerPage.shown? db' id = some user := by
    simp only [LearnerPage.shown?, found, viewed, Except.toOption]
  have page : (LearnerPage.me.view id query).progressRows db'
      = [(u.id, user.primaryExam.code)] := by
    rw [LearnerPage.progressRows_me, shown, ← own]
    rfl
  refine ⟨signIn, page, ?_⟩
  rw [signIn, page]
  constructor
  · intro same
    have texts : u.primaryExam = user.primaryExam.code := by simpa using same
    exact ⟨user.primaryExam, texts⟩
  · rintro ⟨exam, stored⟩
    rw [stored, Exam.parse_code] at read
    obtain rfl : exam = user.primaryExam := Except.ok.inj read
    rw [stored]

/-- A database that knows one learner and lets nothing be made. -/
def rollOf (u : UserRecord) : Database :=
  .answering fun
    | .begin => .ok ()
    | .findByTelegramId _ => .ok [u]
    | .findById _ => .ok [u]
    | .touchLastLogin .. => .ok ()
    | .findExamProfile .. => .ok []
    | .commit => .ok ()
    | _ => .error "closed"

/-- The account of a learner who signed in before, with the exam as it is stored. -/
def storedAs (exam : String) : UserRecord :=
  { TelegramSignIn.sampleSignIn.newcomer (.ofNat 7) .epoch with primaryExam := exam }

theorem same_progress_row_iff_code_sample :
    (storedAs "JEE").toView = .ok TelegramSignIn.sampleView
      ∧ (TelegramSignIn.sampleSignIn.run TokenService.sampleService firstMinute).progressRows
          (rollOf (storedAs "JEE"))
        = (LearnerPage.me.view (.ofNat 7) []).progressRows (rollOf (storedAs "JEE")) := by
  have viewed : (storedAs "JEE").toView = .ok TelegramSignIn.sampleView := rfl
  have met : TelegramSignIn.sampleSignIn.met? (rollOf (storedAs "JEE"))
      = some (storedAs "JEE") := rfl
  have found : (rollOf (storedAs "JEE")).reply (.findById (.ofNat 7))
      = .ok [storedAs "JEE"] := rfl
  obtain ⟨-, -, same⟩ := same_progress_row_iff_code TelegramSignIn.sampleSignIn
    TokenService.sampleService firstMinute (.ofNat 7) [] met found viewed
  exact ⟨viewed, same.mpr ⟨.jee, rfl⟩⟩

/-- For an account that stores the exam in small letters, which are read as the exam, the sign-in
addresses another row than the page. -/
theorem small_letters_address_another_row :
    (storedAs "jee").toView = .ok TelegramSignIn.sampleView
      ∧ (TelegramSignIn.sampleSignIn.run TokenService.sampleService firstMinute).progressRows
          (rollOf (storedAs "jee"))
        = [(.ofNat 7, "jee")]
      ∧ (LearnerPage.me.view (.ofNat 7) []).progressRows (rollOf (storedAs "jee"))
        = [(.ofNat 7, "JEE")] :=
  ⟨rfl, rfl, rfl⟩

end StudyHall
