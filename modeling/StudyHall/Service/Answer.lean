import StudyHall.Learner.Telegram
import StudyHall.Service.Bearer
import StudyHall.Service.Console
import StudyHall.Service.Limit

/-!
# Answers of the endpoints

What each endpoint does with a request. Learners' endpoints work on the database and leave the
directory alone; the endpoints of operators work on the directory and send no statement.

## Main definitions

* `Call` is a request with everything else that decides about the answer.
* `Outcome` is an answer with its traces: the directory after it, the statements that were sent
  and what is counted.
* `Service.answer` gives the outcome of an endpoint.
-/

namespace StudyHall

/-- A request with the time it arrives, the database it meets, the identifiers that are drawn for a
new operator and for the request itself, and what the limiter would make of it. -/
structure Call where
  request : Request
  now : Instant
  database : Database
  operatorId : Uuid
  requestId : Uuid
  limit : Limit := .free

/-- An answer with its traces. -/
structure Outcome where
  result : Except (Fault ApiError) Response
  directory : Directory
  statements : List Statement := []
  events : List Metrics.Event := []

/-- A refusal as it is sent to the caller. -/
def ApiError.response (e : ApiError) : Response :=
  Response.of e.status (.json (Json.ofFields [("error", .text e.publicMessage)]))

/-- A JSON value as it is sent to the caller. -/
def Response.page (j : Json) : Response :=
  Response.of 200 (.json j)

/-- A session as an outcome that leaves the directory alone. -/
def Session.outcome {α : Type} (x : Session α) (c : Call) (d : Directory) (present : α → Response) :
    Outcome where
  result := (x c.database).2.map present
  directory := d
  statements := (x c.database).1

namespace Service

variable (s : Service)

/-- Whether the database answers. -/
def ready (c : Call) (d : Directory) : Outcome :=
  let r := Session.send .ping c.database
  { result := .ok (Response.of (match r.2 with | .ok _ => 200 | .error _ => 503) .empty)
    directory := d
    statements := r.1 }

/-- A page for learners, for whoever has a token. -/
def learnerPage (page : LearnerPage) (c : Call) (d : Directory) : Outcome :=
  match s.learnerTokens.sender c.request c.now with
  | .error e => ⟨.error e, d, [], []⟩
  | .ok subject => (page.view subject.userId c.request.target.query).outcome c d Response.page

/-- The sign-in of a learner; a success is counted. -/
def telegramSignIn (c : Call) (d : Directory) : Outcome :=
  match telegramSchema.accept c.request with
  | .error e => ⟨.error (.refused e), d, [], []⟩
  | .ok t =>
      let o := (t.run s.learnerTokens c.now).outcome c d fun a => Response.page a.toJson
      { o with
        events :=
          match o.result with
          | .ok _ => [.signIn "telegram" true]
          | .error _ => [] }

/-- The sign-in of an operator; right and wrong credentials are counted. -/
def adminSignIn (c : Call) (d : Directory) : Outcome :=
  match credentialsSchema.accept c.request with
  | .error e => ⟨.error (.refused e), d, [], []⟩
  | .ok credentials =>
      { result :=
          (s.account.signIn s.adminTokens credentials c.now).map fun a => Response.page a.toJson
        directory := d
        events := [.signIn "admin" (s.account.recognizes credentials)] }

/-- An operation on the directory, for operators. -/
def directoryAction (a : DirectoryAction) (c : Call) (d : Directory) : Outcome :=
  match s.adminTokens.operator c.request c.now with
  | .error e => ⟨.error e, d, [], []⟩
  | .ok _ =>
      match a.operation c.request c.operatorId with
      | .error e => ⟨.error (.refused e), d, [], []⟩
      | .ok op =>
          let r := d.perform c.now op
          ⟨a.response r.1, r.2, [], (a.event? r.1).toList⟩

/-- A report, for operators. -/
def reportPage (report : Report) (c : Call) (d : Directory) : Outcome :=
  match s.adminTokens.operator c.request c.now with
  | .error e => ⟨.error e, d, [], []⟩
  | .ok _ =>
      ⟨(report.content s c.request.target.query c.now).map Response.page, d, [], []⟩

/-- The outcome of an endpoint. -/
def answer (e : Endpoint) (c : Call) (d : Directory) : Outcome :=
  match e with
  | .health => ⟨.ok (Response.of 200 .empty), d, [], []⟩
  | .ready => ready c d
  | .learner page => s.learnerPage page c d
  | .telegramSignIn => s.telegramSignIn c d
  | .adminSignIn => s.adminSignIn c d
  | .directory a => s.directoryAction a c d
  | .report r => s.reportPage r c d

end Service

end StudyHall
