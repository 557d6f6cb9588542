import StudyHall.Api.Error
import StudyHall.Console.Operator
import StudyHall.Learner.Records
import StudyHall.Text.Numeral

/-!
# What learners are shown

Views of accounts, progress, subjects, the leaderboard and the feed, and how each is made from
stored data. A stored code that names no exam or role is a fault of the service.
-/

namespace StudyHall

open Text

/-! ## Accounts -/

/-- An account as its owner sees it. -/
structure UserView where
  id : Uuid
  displayName : String
  email : Option String
  telegramId : Option String
  primaryExam : Exam
  role : Role
  createdAt : Instant
  deriving DecidableEq

/-- The view of a stored account; its exam is read before its role. -/
def UserRecord.toView (r : UserRecord) : Except ApiError UserView :=
  match Exam.parse r.primaryExam with
  | .error e => .error (.internal ("user " ++ r.id.toText ++ ": " ++ e.message))
  | .ok exam =>
      match Role.parse r.role with
      | .error e => .error (.internal ("user " ++ r.id.toText ++ ": " ++ e.message))
      | .ok role =>
          .ok ⟨r.id, r.displayName, r.email, r.telegramId, exam, role, r.createdAt⟩

/-- The view of the first operator. -/
def AdminProfile.toView (p : AdminProfile) : UserView :=
  ⟨p.id, p.displayName, some p.email, none, p.primaryExam, p.role, p.createdAt⟩

/-- A token with the account it belongs to. -/
structure AuthResponse where
  accessToken : String
  user : UserView
  deriving DecidableEq

/-! ## Progress -/

/-- Progress in one exam. -/
structure ExamProfileView where
  exam : Exam
  totalQuestions : Int32
  totalCorrect : Int32
  totalTimeSeconds : Int32
  overallLevel : Int32
  currentStreakDays : Int32
  longestStreakDays : Int32
  lastLoginAt : Option Instant
  deriving DecidableEq

/-- The progress of somebody who has not begun. -/
def ExamProfileView.empty (exam : Exam) : ExamProfileView :=
  ⟨exam, 0, 0, 0, 0, 0, 0, none⟩

/-- Stored progress as progress in an exam. -/
def ExamProfileRecord.toView (exam : Exam) (r : ExamProfileRecord) : ExamProfileView :=
  ⟨exam, r.totalQuestions, r.totalCorrect, r.totalTimeSeconds, r.overallLevel,
    r.currentStreakDays, r.longestStreakDays, r.lastLoginAt⟩

/-- An account with its progress. -/
structure MeResponse where
  user : UserView
  examProfile : ExamProfileView
  deriving DecidableEq

/-! ## Subjects and topics -/

/-- A subject. -/
structure SubjectView where
  id : Uuid
  exam : Exam
  name : String
  isActive : Bool
  deriving DecidableEq

/-- The view of a stored subject. -/
def SubjectRecord.toView (r : SubjectRecord) : Except ApiError SubjectView :=
  match Exam.parse r.exam with
  | .error e => .error (.internal ("subject " ++ r.id.toText ++ ": " ++ e.message))
  | .ok exam => .ok ⟨r.id, exam, r.name, r.isActive⟩

/-- A topic. -/
structure TopicView where
  id : Uuid
  subjectId : Uuid
  name : String
  isActive : Bool
  deriving DecidableEq

/-- The view of a stored topic. -/
def TopicRecord.toView (r : TopicRecord) : TopicView :=
  ⟨r.id, r.subjectId, r.name, r.isActive⟩

/-! ## The leaderboard -/

/-- A place on the leaderboard. -/
structure LeaderboardEntry where
  id : Uuid
  displayName : String
  score : Int64
  totalCorrect : Int64
  totalAttempt : Int64
  /-- Streaks are not counted for the leaderboard, so this is zero. -/
  dayStreak : Int64
  earnedRewards : Int64
  deriving DecidableEq

/-- The view of a stored place. -/
def LeaderboardEntryRecord.toView (r : LeaderboardEntryRecord) : LeaderboardEntry :=
  ⟨r.id, r.displayName, r.score, r.totalCorrect, r.totalAttempt, 0, r.earnedRewards⟩

/-- Figures over the whole leaderboard. -/
structure LeaderboardStats where
  totalUsers : Int64
  averageAccuracy : Float
  leaderboardRange : String

/-- The view of stored figures. -/
def LeaderboardStatsRecord.toView (r : LeaderboardStatsRecord) : LeaderboardStats :=
  ⟨r.totalUsers, r.averageAccuracy, "Top " ++ intText r.rangeValue.toInt⟩

/-- The leaderboard. -/
structure LeaderboardResponse where
  stats : LeaderboardStats
  entries : List LeaderboardEntry

/-! ## The feed -/

/-- A post of the feed. -/
structure FeedPost where
  id : Uuid
  postType : String
  title : String
  body : String
  imageUrl : Option String
  tags : List String
  createdAt : Instant
  author : String
  cta : String
  likes : Int32
  comments : Int32
  readTime : String
  deriving DecidableEq

/-- The view of a stored post: its tags as a list, and no image for an empty address. -/
def FeedPostRecord.toView (r : FeedPostRecord) : FeedPost where
  id := r.id
  postType := r.postType
  title := r.title
  body := r.body
  imageUrl := r.imageUrl.filter fun url => !url.isEmpty
  tags := items r.tags
  createdAt := r.createdAt
  author := r.author
  cta := r.cta
  likes := r.likes
  comments := r.comments
  readTime := r.readTime

end StudyHall
