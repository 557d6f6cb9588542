import StudyHall.Decimal.Double
import StudyHall.Learner.Views
import StudyHall.Wire.Codes

/-!
# Learner data in JSON

The written form of stored rows, with names in snake case, and of the views made from them, with
names in camel case. A view leaves out a field that has no value.
-/

namespace StudyHall

open Json (ofFields ofList field?)

/-! ## Stored rows -/

/-- A stored account in JSON. -/
def UserRecord.toJson (u : UserRecord) : Json :=
  ofFields
    [ ("id", u.id.toJson), ("display_name", .text u.displayName),
      ("email", .orNull (u.email.map .text)), ("telegram_id", .orNull (u.telegramId.map .text)),
      ("primary_exam", .text u.primaryExam), ("role", .text u.role),
      ("created_at", u.createdAt.toJson) ]

/-- The stored account that a JSON value denotes. -/
def UserRecord.ofJson? (j : Json) : Option UserRecord := do
  let r ← j.record?
    ["id", "display_name", "email", "telegram_id", "primary_exam", "role", "created_at"]
  some
    { id := ← r.required "id" Uuid.ofJson?
      displayName := ← r.required "display_name" Json.text?
      email := ← r.optional "email" Json.text?
      telegramId := ← r.optional "telegram_id" Json.text?
      primaryExam := ← r.required "primary_exam" Json.text?
      role := ← r.required "role" Json.text?
      createdAt := ← r.required "created_at" Instant.ofJson? }

/-- Stored progress in JSON. -/
def ExamProfileRecord.toJson (p : ExamProfileRecord) : Json :=
  ofFields
    [ ("user_id", p.userId.toJson), ("exam", .text p.exam),
      ("total_questions", .ofInt32 p.totalQuestions), ("total_correct", .ofInt32 p.totalCorrect),
      ("total_time_seconds", .ofInt32 p.totalTimeSeconds),
      ("overall_level", .ofInt32 p.overallLevel),
      ("current_streak_days", .ofInt32 p.currentStreakDays),
      ("longest_streak_days", .ofInt32 p.longestStreakDays),
      ("last_login_at", .orNull (p.lastLoginAt.map Instant.toJson)) ]

/-- The stored progress that a JSON value denotes. -/
def ExamProfileRecord.ofJson? (j : Json) : Option ExamProfileRecord := do
  let r ← j.record?
    ["user_id", "exam", "total_questions", "total_correct", "total_time_seconds", "overall_level",
      "current_streak_days", "longest_streak_days", "last_login_at"]
  some
    { userId := ← r.required "user_id" Uuid.ofJson?
      exam := ← r.required "exam" Json.text?
      totalQuestions := ← r.required "total_questions" Json.toInt32?
      totalCorrect := ← r.required "total_correct" Json.toInt32?
      totalTimeSeconds := ← r.required "total_time_seconds" Json.toInt32?
      overallLevel := ← r.required "overall_level" Json.toInt32?
      currentStreakDays := ← r.required "current_streak_days" Json.toInt32?
      longestStreakDays := ← r.required "longest_streak_days" Json.toInt32?
      lastLoginAt := ← r.optional "last_login_at" Instant.ofJson? }

/-- A stored subject in JSON. -/
def SubjectRecord.toJson (s : SubjectRecord) : Json :=
  ofFields
    [ ("id", s.id.toJson), ("exam", .text s.exam), ("name", .text s.name),
      ("is_active", .bool s.isActive) ]

/-- The stored subject that a JSON value denotes. -/
def SubjectRecord.ofJson? (j : Json) : Option SubjectRecord := do
  let r ← j.record? ["id", "exam", "name", "is_active"]
  some
    { id := ← r.required "id" Uuid.ofJson?
      exam := ← r.required "exam" Json.text?
      name := ← r.required "name" Json.text?
      isActive := ← r.required "is_active" Json.bool? }

/-- A stored topic in JSON. -/
def TopicRecord.toJson (t : TopicRecord) : Json :=
  ofFields
    [ ("id", t.id.toJson), ("subject_id", t.subjectId.toJson), ("name", .text t.name),
      ("is_active", .bool t.isActive) ]

/-- The stored topic that a JSON value denotes. -/
def TopicRecord.ofJson? (j : Json) : Option TopicRecord := do
  let r ← j.record? ["id", "subject_id", "name", "is_active"]
  some
    { id := ← r.required "id" Uuid.ofJson?
      subjectId := ← r.required "subject_id" Uuid.ofJson?
      name := ← r.required "name" Json.text?
      isActive := ← r.required "is_active" Json.bool? }

/-- A stored place on the leaderboard in JSON. -/
def LeaderboardEntryRecord.toJson (e : LeaderboardEntryRecord) : Json :=
  ofFields
    [ ("id", e.id.toJson), ("display_name", .text e.displayName),
      ("total_correct", .ofInt64 e.totalCorrect), ("total_attempt", .ofInt64 e.totalAttempt),
      ("score", .ofInt64 e.score), ("earned_rewards", .ofInt64 e.earnedRewards) ]

/-- The stored place on the leaderboard that a JSON value denotes. -/
def LeaderboardEntryRecord.ofJson? (j : Json) : Option LeaderboardEntryRecord := do
  let r ← j.record?
    ["id", "display_name", "total_correct", "total_attempt", "score", "earned_rewards"]
  some
    { id := ← r.required "id" Uuid.ofJson?
      displayName := ← r.required "display_name" Json.text?
      totalCorrect := ← r.required "total_correct" Json.toInt64?
      totalAttempt := ← r.required "total_attempt" Json.toInt64?
      score := ← r.required "score" Json.toInt64?
      earnedRewards := ← r.required "earned_rewards" Json.toInt64? }

/-- Stored figures of the leaderboard in JSON. -/
def LeaderboardStatsRecord.toJson (s : LeaderboardStatsRecord) : Json :=
  ofFields
    [ ("total_users", .ofInt64 s.totalUsers),
      ("average_accuracy", Decimal.toJson s.averageAccuracy),
      ("range_value", .ofInt32 s.rangeValue) ]

/-- The stored figures of the leaderboard that a JSON value denotes. -/
def LeaderboardStatsRecord.ofJson? (j : Json) : Option LeaderboardStatsRecord := do
  let r ← j.record? ["total_users", "average_accuracy", "range_value"]
  some
    { totalUsers := ← r.required "total_users" Json.toInt64?
      averageAccuracy := ← r.required "average_accuracy" Decimal.ofJson?
      rangeValue := ← r.required "range_value" Json.toInt32? }

/-- A stored post in JSON. -/
def FeedPostRecord.toJson (p : FeedPostRecord) : Json :=
  ofFields
    [ ("id", p.id.toJson), ("post_type", .text p.postType), ("title", .text p.title),
      ("body", .text p.body), ("image_url", .orNull (p.imageUrl.map .text)),
      ("tags", .text p.tags), ("author", .text p.author), ("cta", .text p.cta),
      ("likes", .ofInt32 p.likes), ("comments", .ofInt32 p.comments),
      ("read_time", .text p.readTime), ("created_at", p.createdAt.toJson) ]

/-- The stored post that a JSON value denotes. -/
def FeedPostRecord.ofJson? (j : Json) : Option FeedPostRecord := do
  let r ← j.record?
    ["id", "post_type", "title", "body", "image_url", "tags", "author", "cta", "likes",
      "comments", "read_time", "created_at"]
  some
    { id := ← r.required "id" Uuid.ofJson?
      postType := ← r.required "post_type" Json.text?
      title := ← r.required "title" Json.text?
      body := ← r.required "body" Json.text?
      imageUrl := ← r.optional "image_url" Json.text?
      tags := ← r.required "tags" Json.text?
      author := ← r.required "author" Json.text?
      cta := ← r.required "cta" Json.text?
      likes := ← r.required "likes" Json.toInt32?
      comments := ← r.required "comments" Json.toInt32?
      readTime := ← r.required "read_time" Json.text?
      createdAt := ← r.required "created_at" Instant.ofJson? }

/-! ## Accounts -/

/-- An account in JSON. -/
def UserView.toJson (u : UserView) : Json :=
  ofFields
    ([("id", u.id.toJson), ("displayName", .text u.displayName)]
      ++ field? "email" (u.email.map .text) ++ field? "telegramId" (u.telegramId.map .text)
      ++ [("primaryExam", u.primaryExam.toJson), ("role", u.role.toJson),
        ("createdAt", u.createdAt.toJson)])

/-- The account that a JSON value denotes. -/
def UserView.ofJson? (j : Json) : Option UserView := do
  let r ← j.record?
    ["id", "displayName", "email", "telegramId", "primaryExam", "role", "createdAt"]
  some
    { id := ← r.required "id" Uuid.ofJson?
      displayName := ← r.required "displayName" Json.text?
      email := ← r.optional "email" Json.text?
      telegramId := ← r.optional "telegramId" Json.text?
      primaryExam := ← r.required "primaryExam" Exam.ofJson?
      role := ← r.required "role" Role.ofJson?
      createdAt := ← r.required "createdAt" Instant.ofJson? }

/-- A token with its account in JSON. -/
def AuthResponse.toJson (a : AuthResponse) : Json :=
  ofFields [("accessToken", .text a.accessToken), ("user", a.user.toJson)]

/-- The token with its account that a JSON value denotes. -/
def AuthResponse.ofJson? (j : Json) : Option AuthResponse := do
  let r ← j.record? ["accessToken", "user"]
  some
    { accessToken := ← r.required "accessToken" Json.text?
      user := ← r.required "user" UserView.ofJson? }

/-! ## Progress -/

/-- Progress in JSON. -/
def ExamProfileView.toJson (p : ExamProfileView) : Json :=
  ofFields
    ([ ("exam", p.exam.toJson), ("totalQuestions", .ofInt32 p.totalQuestions),
      ("totalCorrect", .ofInt32 p.totalCorrect),
      ("totalTimeSeconds", .ofInt32 p.totalTimeSeconds),
      ("overallLevel", .ofInt32 p.overallLevel),
      ("currentStreakDays", .ofInt32 p.currentStreakDays),
      ("longestStreakDays", .ofInt32 p.longestStreakDays) ]
      ++ field? "lastLoginAt" (p.lastLoginAt.map Instant.toJson))

/-- The progress that a JSON value denotes. -/
def ExamProfileView.ofJson? (j : Json) : Option ExamProfileView := do
  let r ← j.record?
    ["exam", "totalQuestions", "totalCorrect", "totalTimeSeconds", "overallLevel",
      "currentStreakDays", "longestStreakDays", "lastLoginAt"]
  some
    { exam := ← r.required "exam" Exam.ofJson?
      totalQuestions := ← r.required "totalQuestions" Json.toInt32?
      totalCorrect := ← r.required "totalCorrect" Json.toInt32?
      totalTimeSeconds := ← r.required "totalTimeSeconds" Json.toInt32?
      overallLevel := ← r.required "overallLevel" Json.toInt32?
      currentStreakDays := ← r.required "currentStreakDays" Json.toInt32?
      longestStreakDays := ← r.required "longestStreakDays" Json.toInt32?
      lastLoginAt := ← r.optional "lastLoginAt" Instant.ofJson? }

/-- An account with its progress in JSON. -/
def MeResponse.toJson (m : MeResponse) : Json :=
  ofFields [("user", m.user.toJson), ("examProfile", m.examProfile.toJson)]

/-- The account with its progress that a JSON value denotes. -/
def MeResponse.ofJson? (j : Json) : Option MeResponse := do
  let r ← j.record? ["user", "examProfile"]
  some
    { user := ← r.required "user" UserView.ofJson?
      examProfile := ← r.required "examProfile" ExamProfileView.ofJson? }

/-! ## Subjects and topics -/

/-- A subject in JSON. -/
def SubjectView.toJson (s : SubjectView) : Json :=
  ofFields
    [ ("id", s.id.toJson), ("exam", s.exam.toJson), ("name", .text s.name),
      ("isActive", .bool s.isActive) ]

/-- The subject that a JSON value denotes. -/
def SubjectView.ofJson? (j : Json) : Option SubjectView := do
  let r ← j.record? ["id", "exam", "name", "isActive"]
  some
    { id := ← r.required "id" Uuid.ofJson?
      exam := ← r.required "exam" Exam.ofJson?
      name := ← r.required "name" Json.text?
      isActive := ← r.required "isActive" Json.bool? }

/-- A topic in JSON. -/
def TopicView.toJson (t : TopicView) : Json :=
  ofFields
    [ ("id", t.id.toJson), ("subjectId", t.subjectId.toJson), ("name", .text t.name),
      ("isActive", .bool t.isActive) ]

/-- The topic that a JSON value denotes. -/
def TopicView.ofJson? (j : Json) : Option TopicView := do
  let r ← j.record? ["id", "subjectId", "name", "isActive"]
  some
    { id := ← r.required "id" Uuid.ofJson?
      subjectId := ← r.required "subjectId" Uuid.ofJson?
      name := ← r.required "name" Json.text?
      isActive := ← r.required "isActive" Json.bool? }

/-! ## The leaderboard -/

/-- A place on the leaderboard in JSON. -/
def LeaderboardEntry.toJson (e : LeaderboardEntry) : Json :=
  ofFields
    [ ("id", e.id.toJson), ("displayName", .text e.displayName), ("score", .ofInt64 e.score),
      ("totalCorrect", .ofInt64 e.totalCorrect), ("totalAttempt", .ofInt64 e.totalAttempt),
      ("dayStreak", .ofInt64 e.dayStreak), ("earnedRewards", .ofInt64 e.earnedRewards) ]

/-- The place on the leaderboard that a JSON value denotes. -/
def LeaderboardEntry.ofJson? (j : Json) : Option LeaderboardEntry := do
  let r ← j.record?
    ["id", "displayName", "score", "totalCorrect", "totalAttempt", "dayStreak", "earnedRewards"]
  some
    { id := ← r.required "id" Uuid.ofJson?
      displayName := ← r.required "displayName" Json.text?
      score := ← r.required "score" Json.toInt64?
      totalCorrect := ← r.required "totalCorrect" Json.toInt64?
      totalAttempt := ← r.required "totalAttempt" Json.toInt64?
      dayStreak := ← r.required "dayStreak" Json.toInt64?
      earnedRewards := ← r.required "earnedRewards" Json.toInt64? }

/-- Figures of the leaderboard in JSON. -/
def LeaderboardStats.toJson (s : LeaderboardStats) : Json :=
  ofFields
    [ ("totalUsers", .ofInt64 s.totalUsers), ("averageAccuracy", Decimal.toJson s.averageAccuracy),
      ("leaderboardRange", .text s.leaderboardRange) ]

/-- The figures of the leaderboard that a JSON value denotes. -/
def LeaderboardStats.ofJson? (j : Json) : Option LeaderboardStats := do
  let r ← j.record? ["totalUsers", "averageAccuracy", "leaderboardRange"]
  some
    { totalUsers := ← r.required "totalUsers" Json.toInt64?
      averageAccuracy := ← r.required "averageAccuracy" Decimal.ofJson?
      leaderboardRange := ← r.required "leaderboardRange" Json.text? }

/-- The leaderboard in JSON. -/
def LeaderboardResponse.toJson (b : LeaderboardResponse) : Json :=
  ofFields [("stats", b.stats.toJson), ("entries", ofList LeaderboardEntry.toJson b.entries)]

/-- The leaderboard that a JSON value denotes. -/
def LeaderboardResponse.ofJson? (j : Json) : Option LeaderboardResponse := do
  let r ← j.record? ["stats", "entries"]
  some
    { stats := ← r.required "stats" LeaderboardStats.ofJson?
      entries := ← r.required "entries" (Json.list? LeaderboardEntry.ofJson?) }

/-! ## The feed -/

/-- A post in JSON. -/
def FeedPost.toJson (p : FeedPost) : Json :=
  ofFields
    ([ ("id", p.id.toJson), ("type", .text p.postType), ("title", .text p.title),
      ("body", .text p.body) ]
      ++ field? "imageUrl" (p.imageUrl.map .text)
      ++ [ ("tags", ofList Json.text p.tags), ("createdAt", p.createdAt.toJson),
        ("author", .text p.author), ("cta", .text p.cta), ("likes", .ofInt32 p.likes),
        ("comments", .ofInt32 p.comments), ("readTime", .text p.readTime) ])

/-- The post that a JSON value denotes. -/
def FeedPost.ofJson? (j : Json) : Option FeedPost := do
  let r ← j.record?
    ["id", "type", "title", "body", "imageUrl", "tags", "createdAt", "author", "cta", "likes",
      "comments", "readTime"]
  some
    { id := ← r.required "id" Uuid.ofJson?
      postType := ← r.required "type" Json.text?
      title := ← r.required "title" Json.text?
      body := ← r.required "body" Json.text?
      imageUrl := ← r.optional "imageUrl" Json.text?
      tags := ← r.required "tags" (Json.list? Json.text?)
      createdAt := ← r.required "createdAt" Instant.ofJson?
      author := ← r.required "author" Json.text?
      cta := ← r.required "cta" Json.text?
      likes := ← r.required "likes" Json.toInt32?
      comments := ← r.required "comments" Json.toInt32?
      readTime := ← r.required "readTime" Json.text? }

end StudyHall
