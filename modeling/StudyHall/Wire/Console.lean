import StudyHall.Console.Dashboard
import StudyHall.Console.Directory
import StudyHall.Decimal.Double
import StudyHall.Wire.Codes

/-!
# The console in JSON

The written form of operators, listings, invitations and figures, each with its reader.
-/

namespace StudyHall

open Json (ofFields ofList)

/-! ## Operators -/

/-- The first operator in JSON. -/
def AdminProfile.toJson (p : AdminProfile) : Json :=
  ofFields
    [ ("id", p.id.toJson), ("displayName", .text p.displayName), ("email", .text p.email),
      ("role", p.role.toJson), ("primaryExam", p.primaryExam.toJson),
      ("createdAt", p.createdAt.toJson), ("permissions", ofList Json.text p.permissions) ]

/-- The first operator that a JSON value denotes. -/
def AdminProfile.ofJson? (j : Json) : Option AdminProfile := do
  let r ← j.record?
    ["id", "displayName", "email", "role", "primaryExam", "createdAt", "permissions"]
  some
    { id := ← r.required "id" Uuid.ofJson?
      displayName := ← r.required "displayName" Json.text?
      email := ← r.required "email" Json.text?
      role := ← r.required "role" Role.ofJson?
      primaryExam := ← r.required "primaryExam" Exam.ofJson?
      createdAt := ← r.required "createdAt" Instant.ofJson?
      permissions := ← r.required "permissions" (Json.list? Json.text?) }

/-- An operator in JSON. -/
def Operator.toJson (o : Operator) : Json :=
  ofFields
    [ ("id", o.id.toJson), ("firstName", .text o.firstName), ("lastName", .text o.lastName),
      ("username", .text o.username), ("email", .text o.email),
      ("phoneNumber", .text o.phoneNumber), ("status", o.status.toJson), ("role", o.role.toJson),
      ("createdAt", o.createdAt.toJson), ("updatedAt", o.updatedAt.toJson) ]

/-- The operator that a JSON value denotes. -/
def Operator.ofJson? (j : Json) : Option Operator := do
  let r ← j.record?
    ["id", "firstName", "lastName", "username", "email", "phoneNumber", "status", "role",
      "createdAt", "updatedAt"]
  some
    { id := ← r.required "id" Uuid.ofJson?
      firstName := ← r.required "firstName" Json.text?
      lastName := ← r.required "lastName" Json.text?
      username := ← r.required "username" Json.text?
      email := ← r.required "email" Json.text?
      phoneNumber := ← r.required "phoneNumber" Json.text?
      status := ← r.required "status" OperatorStatus.ofJson?
      role := ← r.required "role" OperatorRole.ofJson?
      createdAt := ← r.required "createdAt" Instant.ofJson?
      updatedAt := ← r.required "updatedAt" Instant.ofJson? }

/-! ## Listings and invitations -/

namespace Directory

/-- The head of a page in JSON. -/
def PageMeta.toJson (m : PageMeta) : Json :=
  ofFields [("page", .nat m.page), ("pageSize", .nat m.pageSize), ("total", .nat m.total)]

/-- The head of a page that a JSON value denotes. -/
def PageMeta.ofJson? (j : Json) : Option PageMeta := do
  let r ← j.record? ["page", "pageSize", "total"]
  some
    { page := ← r.required "page" Json.word64?
      pageSize := ← r.required "pageSize" Json.word64?
      total := ← r.required "total" Json.word64? }

/-- A page in JSON. -/
def Page.toJson (p : Page) : Json :=
  ofFields [("items", ofList Operator.toJson p.items), ("meta", p.info.toJson)]

/-- The page that a JSON value denotes. -/
def Page.ofJson? (j : Json) : Option Page := do
  let r ← j.record? ["items", "meta"]
  some
    { items := ← r.required "items" (Json.list? Operator.ofJson?)
      info := ← r.required "meta" PageMeta.ofJson? }

/-- A receipt of an invitation in JSON. -/
def InviteReceipt.toJson (v : InviteReceipt) : Json :=
  ofFields [("invited", .bool v.invited), ("expiresAt", v.expiresAt.toJson)]

/-- The receipt of an invitation that a JSON value denotes. -/
def InviteReceipt.ofJson? (j : Json) : Option InviteReceipt := do
  let r ← j.record? ["invited", "expiresAt"]
  some
    { invited := ← r.required "invited" Json.bool?
      expiresAt := ← r.required "expiresAt" Instant.ofJson? }

end Directory

/-! ## Series -/

/-- A point of a series in JSON. -/
def SeriesPoint.toJson (p : SeriesPoint) : Json :=
  ofFields [("date", .text p.date), ("value", .int p.value)]

/-- The point of a series that a JSON value denotes. -/
def SeriesPoint.ofJson? (j : Json) : Option SeriesPoint := do
  let r ← j.record? ["date", "value"]
  some { date := ← r.required "date" Json.text?, value := ← r.required "value" Json.int64? }

/-- A series in JSON. -/
def TimeSeries.toJson (s : TimeSeries) : Json :=
  ofFields
    [ ("metric", s.metric.toJson), ("exam", s.exam.toJson), ("range", s.range.toJson),
      ("points", ofList SeriesPoint.toJson s.points) ]

/-- The series that a JSON value denotes. -/
def TimeSeries.ofJson? (j : Json) : Option TimeSeries := do
  let r ← j.record? ["metric", "exam", "range", "points"]
  some
    { metric := ← r.required "metric" Metric.ofJson?
      exam := ← r.required "exam" Exam.ofJson?
      range := ← r.required "range" Window.ofJson?
      points := ← r.required "points" (Json.list? SeriesPoint.ofJson?) }

/-! ## Subjects and topics -/

/-- A row of subject accuracy in JSON. -/
def SubjectAccuracyRow.toJson (s : SubjectAccuracyRow) : Json :=
  ofFields
    [ ("subjectId", .text s.subjectId), ("subjectName", .text s.subjectName),
      ("accuracy", Decimal.toJson s.accuracy) ]

/-- The row of subject accuracy that a JSON value denotes. -/
def SubjectAccuracyRow.ofJson? (j : Json) : Option SubjectAccuracyRow := do
  let r ← j.record? ["subjectId", "subjectName", "accuracy"]
  some
    { subjectId := ← r.required "subjectId" Json.text?
      subjectName := ← r.required "subjectName" Json.text?
      accuracy := ← r.required "accuracy" Decimal.ofJson? }

/-- Subject accuracy in JSON. -/
def SubjectAccuracy.toJson (s : SubjectAccuracy) : Json :=
  ofFields
    [("exam", s.exam.toJson), ("subjects", ofList SubjectAccuracyRow.toJson s.subjects)]

/-- The subject accuracy that a JSON value denotes. -/
def SubjectAccuracy.ofJson? (j : Json) : Option SubjectAccuracy := do
  let r ← j.record? ["exam", "subjects"]
  some
    { exam := ← r.required "exam" Exam.ofJson?
      subjects := ← r.required "subjects" (Json.list? SubjectAccuracyRow.ofJson?) }

/-- A weak topic in JSON. -/
def WeakTopic.toJson (t : WeakTopic) : Json :=
  ofFields
    [ ("subjectId", .text t.subjectId), ("subjectName", .text t.subjectName),
      ("topicId", .text t.topicId), ("topicName", .text t.topicName),
      ("accuracy", Decimal.toJson t.accuracy), ("attempts", .ofWord32 t.attempts) ]

/-- The weak topic that a JSON value denotes. -/
def WeakTopic.ofJson? (j : Json) : Option WeakTopic := do
  let r ← j.record?
    ["subjectId", "subjectName", "topicId", "topicName", "accuracy", "attempts"]
  some
    { subjectId := ← r.required "subjectId" Json.text?
      subjectName := ← r.required "subjectName" Json.text?
      topicId := ← r.required "topicId" Json.text?
      topicName := ← r.required "topicName" Json.text?
      accuracy := ← r.required "accuracy" Decimal.ofJson?
      attempts := ← r.required "attempts" Json.toWord32? }

/-- Weak topics in JSON. -/
def WeakTopics.toJson (t : WeakTopics) : Json :=
  ofFields [("items", ofList WeakTopic.toJson t.items)]

/-- The weak topics that a JSON value denotes. -/
def WeakTopics.ofJson? (j : Json) : Option WeakTopics := do
  let r ← j.record? ["items"]
  some { items := ← r.required "items" (Json.list? WeakTopic.ofJson?) }

/-! ## Events and referrals -/

/-- An event in JSON. -/
def UpcomingEvent.toJson (e : UpcomingEvent) : Json :=
  ofFields
    [ ("id", .text e.id), ("name", .text e.name), ("exam", e.exam.toJson),
      ("type", e.type.toJson), ("startAt", e.startAt.toJson),
      ("registeredCount", .ofWord32 e.registeredCount), ("status", e.status.toJson) ]

/-- The event that a JSON value denotes. -/
def UpcomingEvent.ofJson? (j : Json) : Option UpcomingEvent := do
  let r ← j.record? ["id", "name", "exam", "type", "startAt", "registeredCount", "status"]
  some
    { id := ← r.required "id" Json.text?
      name := ← r.required "name" Json.text?
      exam := ← r.required "exam" Exam.ofJson?
      type := ← r.required "type" EventType.ofJson?
      startAt := ← r.required "startAt" Instant.ofJson?
      registeredCount := ← r.required "registeredCount" Json.toWord32?
      status := ← r.required "status" EventStatus.ofJson? }

/-- Events in JSON. -/
def UpcomingEvents.toJson (e : UpcomingEvents) : Json :=
  ofFields [("items", ofList UpcomingEvent.toJson e.items)]

/-- The events that a JSON value denotes. -/
def UpcomingEvents.ofJson? (j : Json) : Option UpcomingEvents := do
  let r ← j.record? ["items"]
  some { items := ← r.required "items" (Json.list? UpcomingEvent.ofJson?) }

/-- Referrals in JSON. -/
def ReferralSummary.toJson (s : ReferralSummary) : Json :=
  ofFields
    [ ("range", .text s.range), ("totalReferrals", .ofWord32 s.totalReferrals),
      ("rewardsPaid", .ofWord32 s.rewardsPaid), ("newUsers", .ofWord32 s.newUsers) ]

/-- The referrals that a JSON value denotes. -/
def ReferralSummary.ofJson? (j : Json) : Option ReferralSummary := do
  let r ← j.record? ["range", "totalReferrals", "rewardsPaid", "newUsers"]
  some
    { range := ← r.required "range" Json.text?
      totalReferrals := ← r.required "totalReferrals" Json.toWord32?
      rewardsPaid := ← r.required "rewardsPaid" Json.toWord32?
      newUsers := ← r.required "newUsers" Json.toWord32? }

end StudyHall
