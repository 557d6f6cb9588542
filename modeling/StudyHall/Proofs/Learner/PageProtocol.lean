import Mathlib.Data.List.Forall2
import StudyHall.Proofs.Learner.Protocol
import StudyHall.Proofs.Learner.Questions

/-!
# What a page for learners makes of the answers

A page that has put its question goes on by a protocol. Subjects, topics and posts are told after
one answer. An account is read before the progress in its exam is asked for, and the places of the
leaderboard before its figures; the statement for the progress has its arguments from the row of
the account. A page that is told is either shown or refused: there is no account, or a stored code
is unknown. One subject of an unknown exam spoils the whole list, and otherwise every list has one
item for each row, in the order of the rows.

## Main results

* `view_eq_talk` — a page reads its query, puts its question, and then talks to the database.
* `mapM_toView_cases` — the subjects that are made of rows.
* `keeps_talk` — the talk keeps the protocol.
-/

namespace StudyHall

/-! ## Sessions in a row -/

namespace Session

variable {α β γ : Type}

theorem pure_bind (a : α) (f : α → Session β) : (Session.pure a >>= f) = f a := rfl

theorem bind_assoc (x : Session α) (f : α → Session β) (g : β → Session γ) :
    (x >>= f >>= g) = x >>= fun a => f a >>= g := by
  funext db
  change Session.bind (Session.bind x f) g db = Session.bind x (fun a => Session.bind (f a) g) db
  unfold Session.bind
  rcases x db with ⟨sent, fault | a⟩
  · rfl
  · simp only
    rcases f a db with ⟨further, fault | b⟩
    · rfl
    · simp only [List.append_assoc]

/-- A statement that is answered, and what follows it. -/
theorem send_bind_of_ok {db : Database} {s : Statement} {a : s.Answer}
    (answered : db.reply s = .ok a) (f : s.Answer → Session β) :
    (Session.send s >>= f) db = (s :: (f a db).1, (f a db).2) := by
  change Session.bind (Session.send s) f db = _
  unfold Session.bind
  rw [send_of_ok answered]
  rfl

/-- A refusal needs no database. -/
theorem ofRefusal_eq (r : Except ApiError α) (db : Database) :
    Session.ofRefusal r db = ([], r.mapError Fault.refused) := by
  cases r <;> rfl

theorem bind_congr {x : Session α} {f g : α → Session β} (same : ∀ a, f a = g a) :
    (x >>= f) = x >>= g := by
  rw [funext same]

end Session

/-! ## Talking to the database -/

/-- An account with the progress that is stored for it; nobody needs to have begun. -/
def UserView.withProgress (user : UserView) (rows : List ExamProfileRecord) : MeResponse :=
  match Session.theFirst rows with
  | some p => ⟨user, p.toView user.primaryExam⟩
  | none => ⟨user, .empty user.primaryExam⟩

/-- What a page sends once its question is put, and what it tells at the end: a value to be shown,
or a refusal. -/
def Question.talk : Question → Session (Except ApiError Json)
  | .account id => do
      let rows ← Session.send (.findById id)
      match Session.theFirst rows with
      | none => Session.pure (.error LearnerPage.unknownLearner)
      | some u =>
          match u.toView with
          | .error cause => Session.pure (.error cause)
          | .ok user => do
              let progress ← Session.send (.findExamProfile user.id user.primaryExam.code)
              Session.pure (.ok (user.withProgress progress).toJson)
  | .subjects exam => do
      let rows ← Session.send (.listSubjects (exam.map Exam.code))
      Session.pure ((rows.mapM SubjectRecord.toView).map (Json.ofList SubjectView.toJson))
  | .topics subject => do
      let rows ← Session.send (.listTopics subject)
      Session.pure (.ok (Json.ofList TopicView.toJson (rows.map TopicRecord.toView)))
  | .places limit => do
      let entries ← Session.send (.leaderboardEntries limit)
      let rows ← Session.send .leaderboardStats
      let stats ← Session.theOne rows
      Session.pure (.ok (LeaderboardResponse.toJson
        ⟨stats.toView, entries.map LeaderboardEntryRecord.toView⟩))
  | .posts => do
      let rows ← Session.send .listPosts
      Session.pure (.ok (Json.ofList FeedPost.toJson (rows.map FeedPostRecord.toView)))

namespace Question

/-! ### A talk is what the page does after its question -/

theorem account_eq_talk (id : Uuid) :
    (LearnerPage.ownPage id >>= fun m => Session.pure m.toJson)
      = (Question.account id).talk >>= Session.ofRefusal := by
  unfold LearnerPage.ownPage LearnerPage.ownAccount talk
  simp only [Session.bind_assoc]
  refine Session.bind_congr fun rows => ?_
  cases Session.theFirst rows with
  | none => rfl
  | some u =>
      simp only
      cases u.toView with
      | error cause => rfl
      | ok user =>
          simp only [Session.bind_assoc]
          refine (Session.pure_bind user _).trans (Session.bind_congr fun progress => ?_)
          unfold UserView.withProgress
          cases Session.theFirst progress <;> rfl

theorem subjects_eq_talk (exam : Option Exam) :
    (LearnerPage.subjectList exam >>= fun subjects =>
        Session.pure (Json.ofList SubjectView.toJson subjects))
      = (Question.subjects exam).talk >>= Session.ofRefusal := by
  unfold LearnerPage.subjectList talk
  simp only [Session.bind_assoc]
  refine Session.bind_congr fun rows => ?_
  cases rows.mapM SubjectRecord.toView <;> rfl

theorem topics_eq_talk (subject : Uuid) :
    (LearnerPage.topicList subject >>= fun topics =>
        Session.pure (Json.ofList TopicView.toJson topics))
      = (Question.topics subject).talk >>= Session.ofRefusal := by
  unfold LearnerPage.topicList talk
  simp only [Session.bind_assoc]
  rfl

theorem places_eq_talk (limit : Nat) :
    (LearnerPage.board limit >>= fun b => Session.pure b.toJson)
      = (Question.places limit).talk >>= Session.ofRefusal := by
  unfold LearnerPage.board talk
  simp only [Session.bind_assoc]
  rfl

theorem posts_eq_talk :
    (LearnerPage.posts >>= fun ps => Session.pure (Json.ofList FeedPost.toJson ps))
      = Question.posts.talk >>= Session.ofRefusal := by
  unfold LearnerPage.posts talk
  simp only [Session.bind_assoc]
  rfl

end Question

open Session in
/-- A page reads its query, puts its question, and then talks to the database. -/
theorem LearnerPage.view_eq_talk (page : LearnerPage) (id : Uuid) (query : List Char) :
    page.view id query
      = ofRefusal (page.question id query) >>= fun q => q.talk >>= ofRefusal := by
  cases page with
  | me => exact Question.account_eq_talk id
  | subjects =>
      unfold view question
      cases ExamQuery.read query with
      | error cause => rfl
      | ok q =>
          show (ofRefusal (examOf q.exam) >>= fun exam => subjectList exam >>= fun subjects =>
              Session.pure (Json.ofList SubjectView.toJson subjects))
            = ofRefusal ((examOf q.exam).map Question.subjects) >>= fun q => q.talk >>= ofRefusal
          cases examOf q.exam with
          | error cause => rfl
          | ok exam => exact Question.subjects_eq_talk exam
  | topics =>
      unfold view question
      cases TopicsQuery.read query with
      | error cause => rfl
      | ok q =>
          show (ofRefusal q.subject >>= fun subject => topicList subject >>= fun topics =>
              Session.pure (Json.ofList TopicView.toJson topics))
            = ofRefusal (q.subject.map Question.topics) >>= fun q => q.talk >>= ofRefusal
          cases q.subject with
          | error cause => rfl
          | ok subject => exact Question.topics_eq_talk subject
  | leaderboard =>
      unfold view question
      cases LeaderboardQuery.read query with
      | error cause => rfl
      | ok q => exact Question.places_eq_talk q.effective
  | feed => exact Question.posts_eq_talk

/-! ## Subjects of rows -/

/-- How a stored subject is shown: with the exam that its code names. -/
structure SubjectRecord.ShownAs (r : SubjectRecord) (v : SubjectView) : Prop where
  id : v.id = r.id
  exam : Exam.parse? r.exam = some v.exam
  name : v.name = r.name
  isActive : v.isActive = r.isActive

/-- A stored subject has a view if its code names an exam. -/
theorem SubjectRecord.toView_cases (r : SubjectRecord) :
    (∃ v, r.ShownAs v ∧ r.toView = .ok v)
      ∨ Exam.parse? r.exam = none ∧ ∃ text, r.toView = .error (.internal text) := by
  unfold toView Exam.parse
  cases named : Exam.parse? r.exam with
  | none => exact .inr ⟨rfl, _, rfl⟩
  | some exam => exact .inl ⟨_, ⟨rfl, named, rfl, rfl⟩, rfl⟩

/-- Rows make one subject each, in their order, unless the code of some row names no exam: then
nothing is made of them. -/
theorem mapM_toView_cases (rows : List SubjectRecord) :
    (∃ views, List.Forall₂ SubjectRecord.ShownAs rows views
        ∧ rows.mapM SubjectRecord.toView = .ok views)
      ∨ (∃ row ∈ rows, Exam.parse? row.exam = none)
        ∧ ∃ text, rows.mapM SubjectRecord.toView = .error (.internal text) := by
  induction rows with
  | nil => exact .inl ⟨[], .nil, rfl⟩
  | cons r rows ih =>
      rw [List.mapM_cons]
      obtain ⟨v, shown, viewed⟩ | ⟨unknown, text, spoiled⟩ := r.toView_cases
      · rw [viewed]
        obtain ⟨views, all, made⟩ | ⟨⟨row, mem, unknown⟩, text, spoiled⟩ := ih
        · exact .inl ⟨v :: views, .cons shown all, by rw [made]; rfl⟩
        · refine .inr ⟨⟨row, List.mem_cons_of_mem _ mem, unknown⟩, text, ?_⟩
          rw [spoiled]
          rfl
      · rw [spoiled]
        exact .inr ⟨⟨r, List.mem_cons_self, unknown⟩, text, rfl⟩

/-- Rows that are shown have codes that name exams. -/
theorem parse?_ne_none_of_shown {rows : List SubjectRecord} {views : List SubjectView}
    (shown : List.Forall₂ SubjectRecord.ShownAs rows views) {row : SubjectRecord}
    (mem : row ∈ rows) : Exam.parse? row.exam ≠ none := by
  induction shown with
  | nil => cases mem
  | cons first _ ih =>
      rcases List.mem_cons.mp mem with rfl | mem
      · rw [first.exam]
        exact Option.some_ne_none _
      · exact ih mem

/-! ## The protocol -/

namespace Question

open Session

/-- How far a page is. -/
inductive Stage where
  | asked (q : Question)
  | owner (user : UserView)
  | places (rows : List LeaderboardEntryRecord)
  | told (result : Except ApiError Json)

/-- The statements of a page with the answers that lead on. -/
inductive Step : Stage → Exchange → Stage → Prop where
  | nobody (id : Uuid) :
      Step (.asked (.account id)) ⟨.findById id, []⟩ (.told (.error LearnerPage.unknownLearner))
  /-- The row has a code that names no exam or no role. -/
  | unreadable (id : Uuid) {u : UserRecord} (rest : List UserRecord) {cause : ApiError}
      (viewed : u.toView = .error cause) :
      Step (.asked (.account id)) ⟨.findById id, u :: rest⟩ (.told (.error cause))
  | account (id : Uuid) {u : UserRecord} (rest : List UserRecord) {user : UserView}
      (viewed : u.toView = .ok user) :
      Step (.asked (.account id)) ⟨.findById id, u :: rest⟩ (.owner user)
  | progress (user : UserView) (p : ExamProfileRecord) (rest : List ExamProfileRecord) :
      Step (.owner user) ⟨.findExamProfile user.id user.primaryExam.code, p :: rest⟩
        (.told (.ok (MeResponse.toJson ⟨user, p.toView user.primaryExam⟩)))
  | noProgress (user : UserView) :
      Step (.owner user) ⟨.findExamProfile user.id user.primaryExam.code, []⟩
        (.told (.ok (MeResponse.toJson ⟨user, .empty user.primaryExam⟩)))
  | subjects (exam : Option Exam) {rows : List SubjectRecord} {views : List SubjectView}
      (shown : List.Forall₂ SubjectRecord.ShownAs rows views) :
      Step (.asked (.subjects exam)) ⟨.listSubjects (exam.map Exam.code), rows⟩
        (.told (.ok (Json.ofList SubjectView.toJson views)))
  | spoiled (exam : Option Exam) {rows : List SubjectRecord} {row : SubjectRecord}
      (mem : row ∈ rows) (unknown : Exam.parse? row.exam = none) (text : String) :
      Step (.asked (.subjects exam)) ⟨.listSubjects (exam.map Exam.code), rows⟩
        (.told (.error (.internal text)))
  | topics (subject : Uuid) (rows : List TopicRecord) :
      Step (.asked (.topics subject)) ⟨.listTopics subject, rows⟩
        (.told (.ok (Json.ofList TopicView.toJson (rows.map TopicRecord.toView))))
  | places (limit : Nat) (rows : List LeaderboardEntryRecord) :
      Step (.asked (.places limit)) ⟨.leaderboardEntries limit, rows⟩ (.places rows)
  /-- The figures are one row, and of several the first counts. -/
  | figures (rows : List LeaderboardEntryRecord) (stats : LeaderboardStatsRecord)
      (rest : List LeaderboardStatsRecord) :
      Step (.places rows) ⟨.leaderboardStats, stats :: rest⟩
        (.told (.ok (LeaderboardResponse.toJson
          ⟨stats.toView, rows.map LeaderboardEntryRecord.toView⟩)))
  | posts (rows : List FeedPostRecord) :
      Step (.asked .posts) ⟨.listPosts, rows⟩
        (.told (.ok (Json.ofList FeedPost.toJson (rows.map FeedPostRecord.toView))))

/-- The question that was put is the first statement. -/
theorem expects_statement (q : Question) : Expects Step (.asked q) q.statement := by
  cases q with
  | account id => exact ⟨[], _, .nobody id⟩
  | subjects exam => exact ⟨[], _, .subjects exam .nil⟩
  | topics subject => exact ⟨[], _, .topics subject []⟩
  | places limit => exact ⟨[], _, .places limit []⟩
  | posts => exact ⟨[], _, .posts []⟩

/-- The talk about an account goes on with the progress in its exam. -/
theorem keeps_owner (user : UserView) :
    Keeps Step (.owner user)
      (Session.send (.findExamProfile user.id user.primaryExam.code) >>= fun progress =>
        Session.pure (.ok (user.withProgress progress).toJson))
      fun result stage => stage = .told result := by
  refine Keeps.send ⟨[], _, .noProgress user⟩ fun rows => .inl ?_
  cases rows with
  | nil => exact ⟨_, .noProgress user, Keeps.result rfl⟩
  | cons p rest => exact ⟨_, .progress user p rest, Keeps.result rfl⟩

/-- The talk about the leaderboard goes on with its figures, which must be there. -/
theorem keeps_places (entries : List LeaderboardEntryRecord) :
    Keeps Step (.places entries)
      (do
        let rows ← Session.send .leaderboardStats
        let stats ← Session.theOne rows
        Session.pure (.ok (LeaderboardResponse.toJson
          ⟨stats.toView, entries.map LeaderboardEntryRecord.toView⟩)))
      fun result stage => stage = .told result := by
  refine Keeps.send ⟨[⟨0, 0, 0⟩], _, .figures entries ⟨0, 0, 0⟩ []⟩ fun rows => ?_
  cases rows with
  | nil =>
      -- Figures without a row are the one answer that does not lead on.
      right
      constructor
      · intro stage step
        cases step
      · rfl
  | cons stats rest => exact .inl ⟨_, .figures entries stats rest, Keeps.result rfl⟩

/-- The talk keeps the protocol. -/
theorem keeps_talk (q : Question) :
    Keeps Step (.asked q) q.talk fun result stage => stage = .told result := by
  cases q with
  | account id =>
      refine Keeps.send (expects_statement (.account id)) fun rows => .inl ?_
      cases rows with
      | nil => exact ⟨_, .nobody id, Keeps.result rfl⟩
      | cons u rest =>
          simp only [theFirst, List.head?_cons]
          cases viewed : u.toView with
          | error cause => exact ⟨_, .unreadable id rest viewed, Keeps.result rfl⟩
          | ok user => exact ⟨_, .account id rest viewed, keeps_owner user⟩
  | subjects exam =>
      refine Keeps.send (expects_statement (.subjects exam)) fun rows => .inl ?_
      obtain ⟨views, shown, made⟩ | ⟨⟨row, mem, unknown⟩, text, spoiled⟩ := mapM_toView_cases rows
      · exact ⟨_, .subjects exam shown, Keeps.result (by rw [made]; rfl)⟩
      · exact ⟨_, .spoiled exam mem unknown text, Keeps.result (by rw [spoiled]; rfl)⟩
  | topics subject =>
      exact Keeps.send (expects_statement (.topics subject)) fun rows =>
        .inl ⟨_, .topics subject rows, Keeps.result rfl⟩
  | places limit =>
      exact Keeps.send (expects_statement (.places limit)) fun rows =>
        .inl ⟨_, .places limit rows, keeps_places rows⟩
  | posts =>
      exact Keeps.send (expects_statement .posts) fun rows =>
        .inl ⟨_, .posts rows, Keeps.result rfl⟩

end Question

end StudyHall
