import StudyHall.Calendar.Timestamp
import StudyHall.Console.Dashboard
import StudyHall.Domain.Code
import StudyHall.Json.Record
import StudyHall.Uuid
import StudyHall.Wire.Name

/-!
# Names, identifiers and times in JSON

Each type has `toJson` and `ofJson?`. The name of a value is written as a string and read as a
string or as an object of that one name; an identifier and a time are strings.
-/

namespace StudyHall

/-- An exam in JSON. -/
def Exam.toJson (e : Exam) : Json := .text e.wireName

/-- The exam that a JSON value denotes. -/
def Exam.ofJson? : Json → Option Exam :=
  Json.code? (byName? Exam.all Exam.wireName)

/-- An account role in JSON. -/
def Role.toJson (r : Role) : Json := .text r.wireName

/-- The account role that a JSON value denotes. -/
def Role.ofJson? : Json → Option Role :=
  Json.code? (byName? Role.all Role.wireName)

/-- An operator role in JSON. -/
def OperatorRole.toJson (r : OperatorRole) : Json := .text r.wireName

/-- The operator role that a JSON value denotes. -/
def OperatorRole.ofJson? : Json → Option OperatorRole :=
  Json.code? (byName? OperatorRole.all OperatorRole.wireName)

/-- A state of an operator in JSON. -/
def OperatorStatus.toJson (t : OperatorStatus) : Json := .text t.wireName

/-- The state of an operator that a JSON value denotes. -/
def OperatorStatus.ofJson? : Json → Option OperatorStatus :=
  Json.code? (byName? OperatorStatus.all OperatorStatus.wireName)

/-- A metric in JSON. -/
def Metric.toJson (m : Metric) : Json := .text m.wireName

/-- The metric that a JSON value denotes. -/
def Metric.ofJson? : Json → Option Metric :=
  Json.code? (byName? Metric.all Metric.wireName)

/-- A window in JSON. -/
def Window.toJson (w : Window) : Json := .text w.wireName

/-- The window that a JSON value denotes. -/
def Window.ofJson? : Json → Option Window :=
  Json.code? (byName? Window.all Window.wireName)

/-- A kind of event in JSON. -/
def EventType.toJson (t : EventType) : Json := .text t.wireName

/-- The kind of event that a JSON value denotes. -/
def EventType.ofJson? : Json → Option EventType :=
  Json.code? (byName? EventType.all EventType.wireName)

/-- A state of an event in JSON. -/
def EventStatus.toJson (t : EventStatus) : Json := .text t.wireName

/-- The state of an event that a JSON value denotes. -/
def EventStatus.ofJson? : Json → Option EventStatus :=
  Json.code? (byName? EventStatus.all EventStatus.wireName)

/-- An identifier in JSON. -/
def Uuid.toJson (u : Uuid) : Json := .text u.toText

/-- The identifier that a JSON value denotes. -/
def Uuid.ofJson? (j : Json) : Option Uuid := j.text?.bind Uuid.parse?

/-- A time in JSON. -/
def Instant.toJson (t : Instant) : Json := .text t.toText

/-- The time that a JSON value denotes. -/
def Instant.ofJson? (j : Json) : Option Instant := j.text?.bind Instant.parse?

namespace Json

/-- A number of 32 bits with a sign as a value. -/
def ofInt32 (i : Int32) : Json := .int i.toInt

/-- The number of 32 bits with a sign that a value denotes. -/
def toInt32? (j : Json) : Option Int32 := j.int32?.map Int32.ofInt

/-- A number of 64 bits with a sign as a value. -/
def ofInt64 (i : Int64) : Json := .int i.toInt

/-- The number of 64 bits with a sign that a value denotes. -/
def toInt64? (j : Json) : Option Int64 := j.int64?.map Int64.ofInt

/-- A count of 32 bits as a value. -/
def ofWord32 (n : UInt32) : Json := .nat n.toNat

/-- The count of 32 bits that a value denotes. -/
def toWord32? (j : Json) : Option UInt32 := j.word32?.map UInt32.ofNat

/-- A list as a value. -/
def ofList {α : Type} (toJson : α → Json) (xs : List α) : Json := .array (xs.map toJson)

end Json

end StudyHall
