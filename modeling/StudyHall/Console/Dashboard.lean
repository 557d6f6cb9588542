import StudyHall.Calendar.Timestamp
import StudyHall.Domain.Code
import StudyHall.Domain.Fault
import StudyHall.Text.Blank
import StudyHall.Text.Lowercase

/-!
# Figures of the dashboard

Every figure is a function of the clock and of the exam that is asked for, or the primary exam
where none is. A series has one point for each day of its window, the oldest first, and the value
of a day depends on the day and the metric alone.
-/

namespace StudyHall

open Calendar Text

/-! ## Metrics and windows -/

/-- What a series can show. -/
inductive Metric where
  | activeUsers
  | questionsAnswered
  deriving DecidableEq, Repr

namespace Metric

/-- All metrics. -/
def all : List Metric := [.activeUsers, .questionsAnswered]

/-- The code of a metric. -/
def code : Metric → String
  | .activeUsers => "active_users"
  | .questionsAnswered => "questions_answered"

/-- The metric of a name in small letters. -/
def ofName? : String → Option Metric
  | "active_users" => some .activeUsers
  | "questions_answered" => some .questionsAnswered
  | _ => none

/-- The metric that a text names. -/
def parse? (s : String) : Option Metric :=
  ofName? (asciiLower (trim s))

/-- The metric that a text names, or a refusal. -/
def parse (s : String) : Except ConsoleError Metric :=
  match parse? s with
  | some m => .ok m
  | none => .error .invalidMetric

/-- The level around which the values of a metric lie. -/
def base : Metric → Int
  | .activeUsers => 750
  | .questionsAnswered => 1800

/-- The value on a day counted from 1970-01-01. -/
def onDay (m : Metric) (day : Int) : Int :=
  m.base + day % 200 + 100

/-- The value on the day that holds an instant. -/
def valueAt (m : Metric) (t : Instant) : Int :=
  m.onDay t.day

end Metric

/-- The window of a series, looking back from today. -/
inductive Window where
  | today
  | week
  | month
  deriving DecidableEq, Repr

namespace Window

/-- All windows. -/
def all : List Window := [.today, .week, .month]

/-- The code of a window. -/
def code : Window → String
  | .today => "today"
  | .week => "7d"
  | .month => "30d"

/-- The number of days of a window. -/
def days : Window → Nat
  | .today => 1
  | .week => 7
  | .month => 30

/-- The window that is meant where none is named. -/
def usual : Window := .week

/-- The window of a name in small letters. -/
def ofName? : String → Option Window
  | "" => some usual
  | "today" => some .today
  | "7d" => some .week
  | "7day" => some .week
  | "7days" => some .week
  | "30d" => some .month
  | "30day" => some .month
  | "30days" => some .month
  | _ => none

/-- The window that a text names. -/
def parse? (s : String) : Option Window :=
  ofName? (asciiLower (trim s))

/-- The window that a text names, or a refusal. -/
def parse (s : String) : Except ConsoleError Window :=
  match parse? s with
  | some w => .ok w
  | none => .error .invalidRange

end Window

/-! ## Series -/

/-- One day of a series, by its date as text. -/
structure SeriesPoint where
  date : String
  value : Int
  deriving DecidableEq

/-- A metric over the days of a window. -/
structure TimeSeries where
  metric : Metric
  exam : Exam
  range : Window
  points : List SeriesPoint
  deriving DecidableEq

/-- The point of the day some days before an instant, if that time is representable. -/
def SeriesPoint.daysBack? (m : Metric) (now : Instant) (back : Nat) : Option SeriesPoint :=
  (now.after? (Span.seconds (-secondsPerDay * back))).map fun t =>
    ⟨(Date.ofDay t.day).toText, m.valueAt t⟩

/-- The figures for one primary exam. -/
structure Dashboard where
  primaryExam : Exam

namespace Dashboard

/-- The exam that is meant: the one asked for, or the primary one. -/
def examFor (b : Dashboard) (exam : Option Exam) : Exam :=
  exam.getD b.primaryExam

/-- One point for each day of the window, ending today; the metric is checked before the window.
-/
def timeSeries (b : Dashboard) (metric : String) (exam : Option Exam) (range : String)
    (now : Instant) : Except (Fault ConsoleError) TimeSeries :=
  match Metric.parse metric with
  | .error e => .error (.refused e)
  | .ok m =>
      match Window.parse range with
      | .error e => .error (.refused e)
      | .ok w =>
          match (List.range w.days).reverse.mapM (SeriesPoint.daysBack? m now) with
          | none => .error .outsideCalendar
          | some points => .ok ⟨m, b.examFor exam, w, points⟩

end Dashboard

/-! ## Subjects and topics -/

/-- How well a subject is answered. -/
structure SubjectAccuracyRow where
  subjectId : String
  subjectName : String
  accuracy : Float

/-- The subjects of an exam. -/
structure SubjectAccuracy where
  exam : Exam
  subjects : List SubjectAccuracyRow

/-- A topic that is answered badly. -/
structure WeakTopic where
  subjectId : String
  subjectName : String
  topicId : String
  topicName : String
  accuracy : Float
  attempts : UInt32

/-- Topics that are answered badly. -/
structure WeakTopics where
  items : List WeakTopic

namespace Dashboard

/-- The accuracy of every subject. -/
def subjectAccuracy (b : Dashboard) (exam : Option Exam) : SubjectAccuracy where
  exam := b.examFor exam
  subjects :=
    [ ⟨"subj_anat", "Anatomy", 0.72⟩, ⟨"subj_biochem", "Biochemistry", 0.64⟩,
      ⟨"subj_path", "Pathology", 0.58⟩, ⟨"subj_pharma", "Pharmacology", 0.61⟩ ]

/-- The number of weak topics that are shown where no number is asked for. -/
def usualTopicLimit : Nat := 5

/-- The weak topics, at most `limit` of them, or all for a limit of zero. -/
def weakTopics (b : Dashboard) (exam : Option Exam) (limit : Nat) : WeakTopics :=
  let label := (b.examFor exam).label
  let all : List WeakTopic :=
    [ ⟨"subj_pharma", label ++ " Pharmacology", "topic_autonomic", "Autonomic Drugs", 0.42, 1240⟩,
      ⟨"subj_path", label ++ " Pathology", "topic_neoplasia", "Neoplasia", 0.48, 980⟩,
      ⟨"subj_micro", label ++ " Microbiology", "topic_virology", "Virology", 0.45, 1110⟩,
      ⟨"subj_anat", label ++ " Anatomy", "topic_neuro", "Neuro Anatomy", 0.41, 890⟩ ]
  ⟨if limit = 0 then all else all.take limit⟩

end Dashboard

/-! ## Events -/

/-- The kinds of events. -/
inductive EventType where
  | mock
  | dailyTest
  deriving DecidableEq, Repr

/-- All kinds of events. -/
def EventType.all : List EventType := [.mock, .dailyTest]

/-- The states of an event. -/
inductive EventStatus where
  | scheduled
  deriving DecidableEq, Repr

/-- All states of an event. -/
def EventStatus.all : List EventStatus := [.scheduled]

/-- An event that is to come. -/
structure UpcomingEvent where
  id : String
  name : String
  exam : Exam
  type : EventType
  startAt : Instant
  registeredCount : UInt32
  status : EventStatus
  deriving DecidableEq

/-- Events that are to come. -/
structure UpcomingEvents where
  items : List UpcomingEvent
  deriving DecidableEq

/-- The events of the next days, if their times are representable. -/
def Dashboard.upcomingEvents? (b : Dashboard) (exam : Option Exam) (now : Instant) :
    Option UpcomingEvents := do
  let e := b.examFor exam
  let inThreeDays ← now.after? (Span.seconds (72 * 3600))
  let tomorrow ← now.after? (Span.seconds (24 * 3600))
  some ⟨[ ⟨"mock-bio-1", e.label ++ " - High Yield Bio Mock", e, .mock, inThreeDays, 2420,
          .scheduled⟩,
        ⟨"daily-test-2", "Daily Rapid Fire", e, .dailyTest, tomorrow, 1340, .scheduled⟩ ]⟩

/-! ## Referrals -/

/-- The referrals within a window. -/
structure ReferralSummary where
  range : String
  totalReferrals : UInt32
  rewardsPaid : UInt32
  newUsers : UInt32
  deriving DecidableEq

/-- The referrals within a window; a window that is not known has the figures of 30 days. -/
def referralSummary (range : String) : ReferralSummary :=
  let t := trim range
  let r := if t = "" then Window.month.code else t
  if r = "7d" then ⟨r, 210, 4200, 75⟩
  else if r = "today" then ⟨r, 28, 980, 12⟩
  else ⟨r, 980, 18200, 320⟩

end StudyHall
