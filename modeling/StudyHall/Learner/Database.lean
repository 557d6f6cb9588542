import StudyHall.Api.Error
import StudyHall.Learner.Records

/-!
# The database

Everything the service knows about learners is asked of a database by statements. A session sends
statements one after the other and stops at the first that fails; what it did is the list of the
statements it sent.

A database is what it answers to each statement, or it cannot be reached at all and then receives
no statement.

## Main definitions

* `Statement` with `Statement.Answer`, the type of what comes back.
* `Session` is a computation over a database; `send` sends one statement.
* `theFirst` and `theOne` read the rows that come back.
-/

namespace StudyHall

/-! ## Statements -/

/-- A statement with its arguments. -/
inductive Statement where
  | begin
  | commit
  | ping
  | findById (id : Uuid)
  | findByTelegramId (telegramId : String)
  | createTelegramUser (displayName telegramId exam role : String)
  | createExamProfile (userId : Uuid) (exam : String)
  | findExamProfile (userId : Uuid) (exam : String)
  | touchLastLogin (userId : Uuid) (exam : String)
  | listSubjects (exam : Option String)
  | listTopics (subjectId : Uuid)
  | listPosts
  | leaderboardEntries (limit : Nat)
  | leaderboardStats
  deriving DecidableEq

/-- What comes back from a statement: rows where there are any. -/
abbrev Statement.Answer : Statement → Type
  | .begin => Unit
  | .commit => Unit
  | .ping => Unit
  | .findById _ => List UserRecord
  | .findByTelegramId _ => List UserRecord
  | .createTelegramUser .. => List UserRecord
  | .createExamProfile .. => Unit
  | .findExamProfile .. => List ExamProfileRecord
  | .touchLastLogin .. => Unit
  | .listSubjects _ => List SubjectRecord
  | .listTopics _ => List TopicRecord
  | .listPosts => List FeedPostRecord
  | .leaderboardEntries _ => List LeaderboardEntryRecord
  | .leaderboardStats => List LeaderboardStatsRecord

/-- A database: what it answers to each statement, a failure being told in words. -/
inductive Database where
  | unreachable
  | answering (answer : (s : Statement) → Except String s.Answer)

/-! ## Sessions -/

/-- A computation that sends statements: given a database, what was sent and how it ended. -/
def Session (α : Type) : Type :=
  Database → List Statement × Except (Fault ApiError) α

namespace Session

variable {α β : Type}

/-- The session that sends nothing. -/
def pure (a : α) : Session α :=
  fun _ => ([], .ok a)

/-- The session that fails at once. -/
def fail (e : Fault ApiError) : Session α :=
  fun _ => ([], .error e)

/-- A session that goes on with what another one gave, unless that failed. -/
def bind (x : Session α) (f : α → Session β) : Session β :=
  fun db =>
    match x db with
    | (sent, .ok a) => (sent ++ (f a db).1, (f a db).2)
    | (sent, .error e) => (sent, .error e)

instance : Monad Session where
  pure := Session.pure
  bind := Session.bind

/-- A result that needs no database. -/
def ofExcept (r : Except (Fault ApiError) α) : Session α :=
  fun _ => ([], r)

/-- A refusal that needs no database. -/
def ofRefusal (r : Except ApiError α) : Session α :=
  ofExcept (match r with | .ok a => .ok a | .error e => .error (.refused e))

/-- The answer to one statement. -/
def send (s : Statement) : Session s.Answer :=
  fun
    | .unreachable => ([], .error (.refused (.database "no connection")))
    | .answering answer =>
        match answer s with
        | .ok a => ([s], .ok a)
        | .error text => ([s], .error (.refused (.database text)))

/-- The first of some rows, if there is one. -/
def theFirst (rows : List α) : Option α :=
  rows.head?

/-- The first of some rows, which must be there. -/
def theOne (rows : List α) : Session α :=
  match rows with
  | row :: _ => Session.pure row
  | [] => Session.fail (.refused (.database "no row"))

end Session

end StudyHall
