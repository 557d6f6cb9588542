import StudyHall.Calendar.Instant
import StudyHall.Uuid

/-!
# Stored learner data

The rows of the database. Codes of exams and roles are kept as they are stored, as text.
-/

namespace StudyHall

/-- A learner's account. -/
structure UserRecord where
  id : Uuid
  displayName : String
  email : Option String
  telegramId : Option String
  primaryExam : String
  role : String
  createdAt : Instant
  deriving DecidableEq

/-- A learner's progress in one exam. -/
structure ExamProfileRecord where
  userId : Uuid
  exam : String
  totalQuestions : Int32
  totalCorrect : Int32
  totalTimeSeconds : Int32
  overallLevel : Int32
  currentStreakDays : Int32
  longestStreakDays : Int32
  lastLoginAt : Option Instant
  deriving DecidableEq

/-- A subject of an exam. -/
structure SubjectRecord where
  id : Uuid
  exam : String
  name : String
  isActive : Bool
  deriving DecidableEq

/-- A topic of a subject. -/
structure TopicRecord where
  id : Uuid
  subjectId : Uuid
  name : String
  isActive : Bool
  deriving DecidableEq

/-- A learner's place on the leaderboard. -/
structure LeaderboardEntryRecord where
  id : Uuid
  displayName : String
  totalCorrect : Int64
  totalAttempt : Int64
  score : Int64
  earnedRewards : Int64
  deriving DecidableEq

/-- Figures over the whole leaderboard. -/
structure LeaderboardStatsRecord where
  totalUsers : Int64
  averageAccuracy : Float
  /-- The highest score of a single attempt. -/
  rangeValue : Int32

/-- A post of the feed; the tags are a comma-separated list. -/
structure FeedPostRecord where
  id : Uuid
  postType : String
  title : String
  body : String
  imageUrl : Option String
  tags : String
  author : String
  cta : String
  likes : Int32
  comments : Int32
  readTime : String
  createdAt : Instant
  deriving DecidableEq

end StudyHall
