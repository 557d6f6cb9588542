import StudyHall.Api.Query
import StudyHall.Learner.Database
import StudyHall.Learner.Views
import StudyHall.Wire.Learner

/-!
# What learners can look at

The pages for learners. Each one reads the query of the address first and asks the database only
when there is nothing wrong with it.
-/

namespace StudyHall

/-- A page for learners. -/
inductive LearnerPage where
  | me
  | subjects
  | topics
  | leaderboard
  | feed
  deriving DecidableEq, Repr

namespace LearnerPage

/-- There is no account with the identifier of the token. -/
def unknownLearner : ApiError := .notFound "user not found"

/-- The account of a learner. -/
def ownAccount (id : Uuid) : Session UserView := do
  let rows ← Session.send (.findById id)
  match Session.theFirst rows with
  | some u => Session.ofRefusal u.toView
  | none => Session.fail (.refused unknownLearner)

/-- The account of a learner with the progress in the exam of the account. -/
def ownPage (id : Uuid) : Session MeResponse := do
  let user ← ownAccount id
  let rows ← Session.send (.findExamProfile user.id user.primaryExam.code)
  match Session.theFirst rows with
  | some p => Session.pure ⟨user, p.toView user.primaryExam⟩
  | none => Session.pure ⟨user, .empty user.primaryExam⟩

/-- The subjects of an exam, or of all exams; one subject of an unknown exam spoils the list. -/
def subjectList (exam : Option Exam) : Session (List SubjectView) := do
  let rows ← Session.send (.listSubjects (exam.map Exam.code))
  Session.ofRefusal (rows.mapM SubjectRecord.toView)

/-- The topics of a subject. -/
def topicList (subject : Uuid) : Session (List TopicView) := do
  let rows ← Session.send (.listTopics subject)
  Session.pure (rows.map TopicRecord.toView)

/-- The leaderboard with at most so many places. -/
def board (limit : Nat) : Session LeaderboardResponse := do
  let entries ← Session.send (.leaderboardEntries limit)
  let rows ← Session.send .leaderboardStats
  let stats ← Session.theOne rows
  Session.pure ⟨stats.toView, entries.map LeaderboardEntryRecord.toView⟩

/-- The posts of the feed, the newest first. -/
def posts : Session (List FeedPost) := do
  let rows ← Session.send .listPosts
  Session.pure (rows.map FeedPostRecord.toView)

/-- A page as it is sent to a learner. -/
def view (page : LearnerPage) (id : Uuid) (query : List Char) : Session Json :=
  match page with
  | .me => do
      let m ← ownPage id
      Session.pure m.toJson
  | .subjects => do
      let q ← Session.ofRefusal (ExamQuery.read query)
      let exam ← Session.ofRefusal (examOf q.exam)
      let subjects ← subjectList exam
      Session.pure (Json.ofList SubjectView.toJson subjects)
  | .topics => do
      let q ← Session.ofRefusal (TopicsQuery.read query)
      let subject ← Session.ofRefusal q.subject
      let topics ← topicList subject
      Session.pure (Json.ofList TopicView.toJson topics)
  | .leaderboard => do
      let q ← Session.ofRefusal (LeaderboardQuery.read query)
      let b ← board q.effective
      Session.pure b.toJson
  | .feed => do
      let ps ← posts
      Session.pure (Json.ofList FeedPost.toJson ps)

end LearnerPage

end StudyHall
