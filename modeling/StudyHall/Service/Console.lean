import StudyHall.Api.Payload
import StudyHall.Console.DirectoryRun
import StudyHall.Metrics.Recorder
import StudyHall.Service.Launch
import StudyHall.Service.Routes
import StudyHall.Wire.Console

/-!
# The console

How requests of operators are answered, once it is clear that an operator sent them. A request for
the directory becomes one operation; its answer becomes the response. Everything that can be wrong
with the request is found before the operation is performed, so a refused request changes nothing.
-/

namespace StudyHall

/-! ## Requests for the directory -/

namespace DirectoryAction

/-- The path does not name an operator. What was wrong with it is not told here: that would follow
these words. -/
def malformedPath : ApiError := .validation "Invalid URL"

/-- The identifier that a segment of a path denotes. -/
def identifier (segment : List Char) : Except ApiError Uuid :=
  match (Percent.text? segment).bind Uuid.parse? with
  | some id => .ok id
  | none => .error malformedPath

/-- The operation that a request asks for; a new operator gets the id that is given. -/
def operation (a : DirectoryAction) (r : Request) (fresh : Uuid) :
    Except ApiError Directory.Operation :=
  match a with
  | .list => do
      let q ← OperatorsQuery.read r.target.query
      let f ← q.filter
      .ok (.list f)
  | .create => do
      let new ← createSchema.accept r
      .ok (.create fresh new)
  | .update segment => do
      let id ← identifier segment
      let patch ← updateSchema.accept r
      .ok (.update id patch)
  | .delete segment => do
      let id ← identifier segment
      .ok (.delete id)
  | .setStatus => do
      let c ← statusSchema.accept r
      .ok (.bulkStatus c.userIds c.status)
  | .remove => do
      let c ← removalSchema.accept r
      .ok (.bulkDelete c.userIds)
  | .invite => do
      let v ← invitationSchema.accept r
      .ok (.invite v.email v.role)

/-- The status of an action that succeeded. -/
def successStatus : DirectoryAction → Nat
  | .create => 201
  | .delete _ => 204
  | .invite => 202
  | _ => 200

/-- The word for the operators that an action has counted. -/
def countWord : DirectoryAction → String
  | .remove => "deleted"
  | _ => "updated"

/-- The content of a response to an action. -/
def body (a : DirectoryAction) : Directory.Answer → Body
  | .operator o => .json o.toJson
  | .count n => .json (Json.ofFields [(a.countWord, .nat n)])
  | .page p => .json p.toJson
  | .receipt v => .json v.toJson
  | .deleted => .empty
  | .found o => .json (.orNull (o.map Operator.toJson))
  | .truth b => .json (.bool b)
  | .failed _ => .empty

/-- The response to an action. -/
def response (a : DirectoryAction) (answer : Directory.Answer) :
    Except (Fault ApiError) Response :=
  match answer with
  | .failed e => .error (e.map .console)
  | _ => .ok (Response.of a.successStatus (a.body answer))

/-- What is counted of an action: the operators it touched. -/
def event? (a : DirectoryAction) (answer : Directory.Answer) : Option Metrics.Event :=
  match a, answer with
  | .create, .operator _ => some (.mutation "create" 1)
  | .update _, .operator _ => some (.mutation "update" 1)
  | .delete _, .deleted => some (.mutation "delete" 1)
  | .setStatus, .count n => some (.mutation "bulk_status" n)
  | .remove, .count n => some (.mutation "bulk_delete" n)
  | _, _ => none

end DirectoryAction

/-! ## Reports -/

/-- There is no metric in the query. -/
def missingMetric : ApiError := .validation "metric is required"

/-- A result of the dashboard with its refusals as those of the service. -/
def liftConsole {α : Type} : Except (Fault ConsoleError) α → Except (Fault ApiError) α
  | .ok a => .ok a
  | .error e => .error (e.map .console)

/-- A refusal as a failure. -/
def refusing {α : Type} : Except ApiError α → Except (Fault ApiError) α
  | .ok a => .ok a
  | .error e => .error (.refused e)

/-- What an operator looks at. -/
def Report.content (report : Report) (s : Service) (query : List Char) (now : Instant) :
    Except (Fault ApiError) Json :=
  match report with
  | .ownProfile => .ok s.account.profile.toJson
  | .timeSeries => do
      let q ← refusing (SeriesQuery.read query)
      match presentText q.metric with
      | none => .error (.refused missingMetric)
      | some metric =>
          let exam ← refusing (examOf q.exam)
          let series ← liftConsole (s.dashboard.timeSeries metric exam (q.range.getD "") now)
          .ok series.toJson
  | .subjectAccuracy => do
      let q ← refusing (ExamQuery.read query)
      let exam ← refusing (examOf q.exam)
      .ok (s.dashboard.subjectAccuracy exam).toJson
  | .weakTopics => do
      let q ← refusing (TopicLimitQuery.read query)
      let exam ← refusing (examOf q.exam)
      .ok (s.dashboard.weakTopics exam q.effective).toJson
  | .upcomingEvents => do
      let q ← refusing (ExamQuery.read query)
      let exam ← refusing (examOf q.exam)
      match s.dashboard.upcomingEvents? exam now with
      | some events => .ok events.toJson
      | none => .error .outsideCalendar
  | .referrals => do
      let q ← refusing (RangeQuery.read query)
      .ok (referralSummary (q.range.getD "")).toJson

end StudyHall
