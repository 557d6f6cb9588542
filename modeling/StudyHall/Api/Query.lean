import StudyHall.Api.Error
import StudyHall.Console.Dashboard
import StudyHall.Console.Directory
import StudyHall.Http.Form
import StudyHall.Text.Numeral

/-!
# Queries

What may be asked for in an address. Each query is read from the form after the question mark; the
values stay as they were given, and are interpreted one by one when the request is answered.

## Main definitions

* `positive` reads a number above zero and falls back to a usual value.
* `examOf` and `statusesOf` interpret single values.
* `OperatorsQuery.filter` makes the filter of a listing.
-/

namespace StudyHall

open Text

/-! ## Single values -/

/-- The query of an address is no form with each expected name at most once. Which name it was is
not told here: that would follow these words. -/
def malformedQuery : ApiError := .validation "Failed to deserialize query string"

/-- A number from 1 to `limit` with blanks around it, or else the usual one. -/
def positive (limit usual : Nat) (raw : Option String) : Nat :=
  match raw with
  | none => usual
  | some s =>
      match readUnsigned limit (trimChars s.toList) with
      | .ok n => if 0 < n then n else usual
      | .error _ => usual

/-- The exam that is asked for; a blank text asks for none. -/
def examOf (raw : Option String) : Except ApiError (Option Exam) :=
  match raw.map trim with
  | none => .ok none
  | some s =>
      if s = "" then .ok none
      else
        match Exam.parse? s with
        | some e => .ok (some e)
        | none => .error (.validation "invalid exam")

/-- The operator role that is asked for; a blank text asks for none. -/
def operatorRoleOf (raw : Option String) : Except ApiError (Option OperatorRole) :=
  match raw.map trim with
  | none => .ok none
  | some s =>
      if s = "" then .ok none
      else
        match OperatorRole.parse? s with
        | some r => .ok (some r)
        | none => .error (.validation "invalid role")

/-- The states that pieces in lower case name, up to the first that names none. -/
def statusesFrom : List String → Except ApiError (List OperatorStatus)
  | [] => .ok []
  | part :: rest =>
      match OperatorStatus.parse? part with
      | none => .error (.validation ("invalid status " ++ part))
      | some t =>
          match statusesFrom rest with
          | .ok ts => .ok (t :: ts)
          | .error e => .error e

/-- The states in a comma-separated list, in any case; blank pieces do not count. -/
def statusesOf (raw : String) : Except ApiError (List OperatorStatus) :=
  statusesFrom (((pieces (· == ',') raw.toList).map fun p =>
    lowercase (String.ofList (trimChars p))).filter fun p => !p.isEmpty)

/-- A text that is there and not blank, trimmed. -/
def presentText (raw : Option String) : Option String :=
  (raw.map trim).filter fun s => !s.isEmpty

/-! ## Queries -/

/-- The texts under expected names in the query of an address. -/
def readQuery (names : List String) (query : List Char) :
    Except ApiError (List (String × String)) :=
  match Form.expected? names (Form.pairs query) with
  | some given => .ok given
  | none => .error malformedQuery

/-- What a listing of operators may be asked for. -/
structure OperatorsQuery where
  page : Option String := none
  pageSize : Option String := none
  status : Option String := none
  role : Option String := none
  username : Option String := none
  deriving DecidableEq

/-- The query of a listing. -/
def OperatorsQuery.read (query : List Char) : Except ApiError OperatorsQuery :=
  (readQuery ["page", "pageSize", "status", "role", "username"] query).map fun q =>
    ⟨q.lookup "page", q.lookup "pageSize", q.lookup "status", q.lookup "role",
      q.lookup "username"⟩

/-- The filter of a listing; the states are interpreted before the role. -/
def OperatorsQuery.filter (q : OperatorsQuery) : Except ApiError Directory.Filter :=
  match (match q.status with | some raw => statusesOf raw | none => .ok []) with
  | .error e => .error e
  | .ok statuses =>
      match operatorRoleOf q.role with
      | .error e => .error e
      | .ok role =>
          .ok
            { page := positive maxWord64 1 q.page
              pageSize := positive maxWord64 20 q.pageSize
              statuses := statuses
              role := role
              username := q.username.filter fun u => !u.isEmpty }

/-- A query that asks for an exam. -/
structure ExamQuery where
  exam : Option String := none
  deriving DecidableEq

/-- The query that asks for an exam. -/
def ExamQuery.read (query : List Char) : Except ApiError ExamQuery :=
  (readQuery ["exam"] query).map fun q => ⟨q.lookup "exam"⟩

/-- A query that asks for a series. -/
structure SeriesQuery where
  metric : Option String := none
  exam : Option String := none
  range : Option String := none
  deriving DecidableEq

/-- The query that asks for a series. -/
def SeriesQuery.read (query : List Char) : Except ApiError SeriesQuery :=
  (readQuery ["metric", "exam", "range"] query).map fun q =>
    ⟨q.lookup "metric", q.lookup "exam", q.lookup "range"⟩

/-- A query that asks for weak topics. -/
structure TopicLimitQuery where
  exam : Option String := none
  limit : Option String := none
  deriving DecidableEq

/-- The query that asks for weak topics. -/
def TopicLimitQuery.read (query : List Char) : Except ApiError TopicLimitQuery :=
  (readQuery ["exam", "limit"] query).map fun q => ⟨q.lookup "exam", q.lookup "limit"⟩

/-- How many weak topics are asked for. -/
def TopicLimitQuery.effective (q : TopicLimitQuery) : Nat :=
  positive maxWord64 Dashboard.usualTopicLimit q.limit

/-- A query that asks for a window of time. -/
structure RangeQuery where
  range : Option String := none
  deriving DecidableEq

/-- The query that asks for a window of time. -/
def RangeQuery.read (query : List Char) : Except ApiError RangeQuery :=
  (readQuery ["range"] query).map fun q => ⟨q.lookup "range"⟩

/-- A query that asks for the topics of a subject. -/
structure TopicsQuery where
  subjectId : Option String := none
  deriving DecidableEq

/-- The query that asks for the topics of a subject. -/
def TopicsQuery.read (query : List Char) : Except ApiError TopicsQuery :=
  (readQuery ["subjectId"] query).map fun q => ⟨q.lookup "subjectId"⟩

/-- The subject that is asked for. -/
def TopicsQuery.subject (q : TopicsQuery) : Except ApiError Uuid :=
  match presentText q.subjectId with
  | none => .error (.validation "subjectId is required")
  | some s =>
      match Uuid.parse? s with
      | some id => .ok id
      | none => .error (.validation "invalid subjectId")

/-- A query that asks for the leaderboard. -/
structure LeaderboardQuery where
  limit : Option String := none
  deriving DecidableEq

/-- The query that asks for the leaderboard. -/
def LeaderboardQuery.read (query : List Char) : Except ApiError LeaderboardQuery :=
  (readQuery ["limit"] query).map fun q => ⟨q.lookup "limit"⟩

/-- How many places are shown when no number is asked for. -/
def usualPlaceLimit : Nat := 20

/-- How many places are asked for. The number may have a sign, and counts if it is above zero. -/
def LeaderboardQuery.effective (q : LeaderboardQuery) : Nat :=
  match q.limit with
  | none => usualPlaceLimit
  | some s =>
      match readSigned maxInt64 (trimChars s.toList) with
      | .ok i => if 0 < i then i.toNat else usualPlaceLimit
      | .error _ => usualPlaceLimit

end StudyHall
