import StudyHall.Console.Dashboard
import StudyHall.Domain.Code

/-!
# Names in documents

In a document a value goes by a name that is made of its identifier, which is words written together
with a capital at the beginning of each. Every type has one style for its names; only those of
windows are given one by one. So these names are a table beside the codes, which are shown to
people, and beside the names that are read from people.

## Main definitions

* `NameStyle.write` makes a name of an identifier.
* `byName?` finds the value of a name.
* `Exam.wireName`, `Role.wireName`, … are the names in documents.
-/

namespace StudyHall

open Text

/-! ## Styles -/

/-- How a name is made of an identifier. -/
inductive NameStyle where
  /-- In small letters. -/
  | lower
  /-- In small letters, with a line between the words. -/
  | snake
  /-- In capitals, with a line between the words. -/
  | upperSnake
  deriving DecidableEq, Repr

/-- An identifier in small letters, with a line before each capital but the first character. -/
def snakeChars : List Char → List Char
  | [] => []
  | first :: rest =>
      asciiLowerChar first
        :: rest.flatMap fun c => if c.isUpper then ['_', asciiLowerChar c] else [asciiLowerChar c]

/-- The name that is made of an identifier. -/
def NameStyle.write (style : NameStyle) (identifier : String) : String :=
  match style with
  | .lower => asciiLower identifier
  | .snake => String.ofList (snakeChars identifier.toList)
  | .upperSnake => asciiUpper (String.ofList (snakeChars identifier.toList))

/-- Of some values the first one with a name. -/
def byName? {α : Type} (values : List α) (nameOf : α → String) (name : String) : Option α :=
  values.find? fun a => nameOf a == name

/-! ## Exams, roles and states -/

/-- The identifier of an examination. -/
def Exam.identifier : Exam → String
  | .neetPg => "NeetPg"
  | .neetUg => "NeetUg"
  | .jee => "Jee"
  | .upsc => "Upsc"

/-- The name of an examination in documents. -/
def Exam.wireName (e : Exam) : String := NameStyle.upperSnake.write e.identifier

/-- The identifier of an account role. -/
def Role.identifier : Role → String
  | .user => "User"
  | .admin => "Admin"
  | .superAdmin => "SuperAdmin"

/-- The name of an account role in documents. -/
def Role.wireName (r : Role) : String := NameStyle.upperSnake.write r.identifier

/-- The identifier of an operator role. -/
def OperatorRole.identifier : OperatorRole → String
  | .superAdmin => "SuperAdmin"
  | .admin => "Admin"
  | .manager => "Manager"
  | .cashier => "Cashier"

/-- The name of an operator role in documents. -/
def OperatorRole.wireName (r : OperatorRole) : String := NameStyle.lower.write r.identifier

/-- The identifier of a state of an operator. -/
def OperatorStatus.identifier : OperatorStatus → String
  | .active => "Active"
  | .inactive => "Inactive"
  | .invited => "Invited"
  | .suspended => "Suspended"

/-- The name of a state of an operator in documents. -/
def OperatorStatus.wireName (t : OperatorStatus) : String := NameStyle.lower.write t.identifier

/-! ## Figures -/

/-- The identifier of a metric. -/
def Metric.identifier : Metric → String
  | .activeUsers => "ActiveUsers"
  | .questionsAnswered => "QuestionsAnswered"

/-- The name of a metric in documents. -/
def Metric.wireName (m : Metric) : String := NameStyle.snake.write m.identifier

/-- The name of a window in documents. -/
def Window.wireName : Window → String
  | .today => "today"
  | .week => "7d"
  | .month => "30d"

/-! ## Events -/

/-- The identifier of a kind of events. -/
def EventType.identifier : EventType → String
  | .mock => "Mock"
  | .dailyTest => "DailyTest"

/-- The name of a kind of events in documents. -/
def EventType.wireName (t : EventType) : String := NameStyle.upperSnake.write t.identifier

/-- The identifier of a state of an event. -/
def EventStatus.identifier : EventStatus → String
  | .scheduled => "Scheduled"

/-- The name of a state of an event in documents. -/
def EventStatus.wireName (t : EventStatus) : String := NameStyle.upperSnake.write t.identifier

end StudyHall
