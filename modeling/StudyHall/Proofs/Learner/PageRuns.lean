import StudyHall.Proofs.Learner.PageProtocol
import StudyHall.Proofs.Learner.TelegramSignIn

/-!
# How a question ends

Whatever the database answers, a question that was put is talked about as the protocol of the pages
has it. So each statement that is sent is one that the question needs: the question itself, for an
account also the progress in the exam of the row that was found, and for the leaderboard also its
figures. A statement that fails is the last one. If none fails, a list shows what was found.

## Main results

* `reached_of_step`, `needs_of_conversation` — a step, and a whole conversation, send what is
  needed.
* `head_of_put`, `answered_of_put` — the question comes first, and nothing is sent after a failure.
* `lists_of_ends` — what the lists show.
* `view_of_question` — every run of a page that puts a question.
-/

namespace StudyHall

namespace Question

open Session

/-! ## Runs -/

/-- What is sent for a question and what is told at the end. Either the talk takes place as a whole,
or it breaks off at a statement that is not answered, or not with the row that must be there; this
statement is the last one, and a fault of the database is told. -/
inductive Put (db : Database) (q : Question) : List Statement → Except ApiError Json → Prop where
  | finished {es : List Exchange} {result : Except ApiError Json}
      (talk : Conversation Step (.asked q) es (.told result)) (gave : db.Gave es) :
      Put db q (es.map Sigma.fst) result
  | failed {stage : Stage} {es : List Exchange} {s : Statement}
      (talk : Conversation Step (.asked q) es stage) (gave : db.Gave es)
      (next : Expects Step stage s) (stuck : Stuck Step db stage s) :
      Put db q (db.receives (es.map Sigma.fst ++ [s])) (.error (.database (db.complaint s)))

/-- What the list of a page shows of the rows that the database gave. -/
def Lists (db : Database) (result : Except ApiError Json) : Question → Prop
  | .account _ => True
  | .subjects exam => ∀ rows, db.reply (.listSubjects (exam.map Exam.code)) = .ok rows →
      ((∃ row ∈ rows, Exam.parse? row.exam = none) → ∃ text, result = .error (.internal text))
        ∧ ((∀ row ∈ rows, Exam.parse? row.exam ≠ none) →
          ∃ views, List.Forall₂ SubjectRecord.ShownAs rows views
            ∧ result = .ok (Json.ofList SubjectView.toJson views))
  | .topics subject => ∀ rows, db.reply (.listTopics subject) = .ok rows →
      result = .ok (Json.ofList TopicView.toJson (rows.map TopicRecord.toView))
  | .places limit => ∀ rows stats rest, db.reply (.leaderboardEntries limit) = .ok rows →
      db.reply .leaderboardStats = .ok (stats :: rest) →
      result = .ok (LeaderboardResponse.toJson
        ⟨stats.toView, rows.map LeaderboardEntryRecord.toView⟩)
  | .posts => ∀ rows, db.reply .listPosts = .ok rows →
      result = .ok (Json.ofList FeedPost.toJson (rows.map FeedPostRecord.toView))

variable {db : Database} {q : Question} {sent : List Statement} {result : Except ApiError Json}

/-! ## What is sent -/

/-- The statements that a question needs. -/
inductive Needs (db : Database) : Question → Statement → Prop where
  | first (q : Question) : Needs db q q.statement
  /-- The row of the account says whose progress is asked for, and in which exam. -/
  | progress {id : Uuid} {u : UserRecord} {rest : List UserRecord} {exam : Exam}
      (answered : db.reply (.findById id) = .ok (u :: rest))
      (named : Exam.parse u.primaryExam = .ok exam) :
      Needs db (.account id) (.findExamProfile u.id exam.code)
  | figures (limit : Nat) : Needs db (.places limit) .leaderboardStats

/-- The stages that a question leads to. -/
inductive Reached (db : Database) : Question → Stage → Prop where
  | asked (q : Question) : Reached db q (.asked q)
  | owner {id : Uuid} {u : UserRecord} {rest : List UserRecord} {user : UserView}
      (answered : db.reply (.findById id) = .ok (u :: rest)) (viewed : u.toView = .ok user) :
      Reached db (.account id) (.owner user)
  | places (limit : Nat) (rows : List LeaderboardEntryRecord) :
      Reached db (.places limit) (.places rows)
  | told (q : Question) (result : Except ApiError Json) : Reached db q (.told result)

/-- A statement that may be sent at a stage is one that the question needs. -/
theorem needs_of_expects {stage : Stage} {s : Statement} (reached : Reached db q stage)
    (next : Expects Step stage s) : Needs db q s := by
  obtain ⟨a, further, step⟩ := next
  cases reached with
  | asked => cases step <;> exact .first _
  | owner answered viewed =>
      -- The statement is written with the view of the account, and is needed for the row of it.
      obtain ⟨id, named, -⟩ := TelegramSignIn.of_toView viewed
      cases step <;> exact id ▸ .progress answered named
  | places limit rows =>
      cases step
      exact .figures limit
  | told => cases step

/-- A step that the database takes leads on to a stage of the question. -/
theorem reached_of_step {p r : Stage} {e : Exchange} (reached : Reached db q p)
    (step : Step p e r) (gave : db.reply e.1 = .ok e.2) : Reached db q r := by
  cases step with
  | account id rest viewed =>
      cases reached
      exact .owner gave viewed
  | places limit rows =>
      cases reached
      exact .places limit rows
  | _ => exact .told q _

/-- A whole conversation sends what the question needs. -/
theorem needs_of_conversation {p r : Stage} {es : List Exchange} (talk : Conversation Step p es r)
    (reached : Reached db q p) (gave : db.Gave es) :
    (∀ s ∈ es.map Sigma.fst, Needs db q s) ∧ Reached db q r := by
  induction talk with
  | nil p => exact ⟨List.forall_mem_nil _, reached⟩
  | @cons p next r e es step rest ih =>
      have first := gave e List.mem_cons_self
      obtain ⟨needs, last⟩ := ih (reached_of_step reached step first)
        fun e mem => gave e (List.mem_cons_of_mem _ mem)
      refine ⟨fun s mem => ?_, last⟩
      rcases List.mem_cons.mp mem with rfl | mem
      · exact needs_of_expects reached ⟨e.2, next, step⟩
      · exact needs s mem

/-- Every statement that is sent is one that the question needs. -/
theorem needs_of_put (put : q.Put db sent result) : ∀ s ∈ sent, Needs db q s := by
  cases put with
  | finished talk gave => exact (needs_of_conversation talk (.asked q) gave).1
  | @failed stage es s talk gave next stuck =>
      obtain ⟨needs, reached⟩ := needs_of_conversation talk (.asked q) gave
      intro s' mem
      have sent : s' ∈ es.map Sigma.fst ++ [s] := by
        cases db with
        | unreachable => cases mem
        | answering answer => exact mem
      rcases List.mem_append.mp sent with mem | mem
      · exact needs s' mem
      · obtain rfl := List.mem_singleton.mp mem
        exact needs_of_expects reached next

/-- The question comes first, if anything gets to the database. -/
theorem head_of_put {answer : (s : Statement) → Except String s.Answer}
    (put : q.Put (.answering answer) sent result) : sent.head? = some q.statement := by
  have own {e : Exchange} {r : Stage} (step : Step (.asked q) e r) : e.1 = q.statement := by
    cases step <;> rfl
  cases put with
  | finished talk gave =>
      cases talk with
      | cons step rest => simp only [List.map_cons, List.head?_cons, own step]
  | failed talk gave next stuck =>
      cases talk with
      | nil =>
          obtain ⟨a, r, step⟩ := next
          exact congrArg some (own step)
      | cons step rest =>
          simp only [Database.receives, List.map_cons, List.cons_append, List.head?_cons, own step]

/-- No statement is sent after one that failed. -/
theorem answered_of_put (put : q.Put db sent result) :
    ∀ s ∈ sent.dropLast, ∃ a, db.reply s = .ok a := by
  have given {es : List Exchange} (gave : db.Gave es) :
      ∀ s ∈ es.map Sigma.fst, ∃ a, db.reply s = .ok a := by
    intro s mem
    obtain ⟨e, among, rfl⟩ := List.mem_map.mp mem
    exact ⟨e.2, gave e among⟩
  cases put with
  | finished talk gave => exact fun s mem => given gave s (List.dropLast_subset _ mem)
  | failed talk gave next stuck =>
      cases db with
      | unreachable => exact List.forall_mem_nil _
      | answering answer =>
          simp only [Database.receives, List.dropLast_concat]
          exact given gave

/-! ## What is told -/

/-- The end of a talk: it is told, or a fault of the database is. -/
def Ends (r : Except (Fault ApiError) (Except ApiError Json)) (result : Except ApiError Json) :
    Prop :=
  r = .ok result ∨ ∃ cause, r = .error (.refused cause) ∧ result = .error cause

/-- What the list shows is what the talk ends with. -/
theorem lists_of_ends (ends : Ends (q.talk db).2 result) : q.Lists db result := by
  have told {own : Except ApiError Json} (talked : (q.talk db).2 = .ok own) : result = own := by
    rw [talked] at ends
    obtain same | ⟨cause, other, -⟩ := ends
    · cases same
      rfl
    · cases other
  cases q with
  | account id => trivial
  | subjects exam =>
      intro rows answered
      have made : result = (rows.mapM SubjectRecord.toView).map (Json.ofList SubjectView.toJson) :=
        told (congrArg Prod.snd (send_bind_of_ok answered _))
      rw [made]
      obtain ⟨views, shown, viewed⟩ | ⟨⟨row, mem, unknown⟩, text, spoiled⟩ :=
        mapM_toView_cases rows
      · rw [viewed]
        refine ⟨fun ⟨row, mem, unknown⟩ => ?_, fun _ => ⟨views, shown, rfl⟩⟩
        exact absurd unknown (parse?_ne_none_of_shown shown mem)
      · rw [spoiled]
        exact ⟨fun _ => ⟨text, rfl⟩, fun known => absurd unknown (known row mem)⟩
  | topics subject =>
      intro rows answered
      exact told (congrArg Prod.snd (send_bind_of_ok answered _))
  | places limit =>
      intro rows stats rest answered figures
      exact told ((congrArg Prod.snd (send_bind_of_ok answered _)).trans
        (congrArg Prod.snd (send_bind_of_ok figures _)))
  | posts =>
      intro rows answered
      exact told (congrArg Prod.snd (send_bind_of_ok answered _))

/-- Whatever the database answers, a page that puts a question sends the statements of the protocol
and ends as that says. -/
theorem view_of_question {page : LearnerPage} {id : Uuid} {query : List Char}
    (asks : page.question id query = .ok q) (db : Database) :
    ∃ sent result, q.Put db sent result ∧ q.Lists db result
      ∧ page.view id query db = (sent, result.mapError Fault.refused) := by
  have viewed : page.view id query db = Session.bind q.talk Session.ofRefusal db := by
    rw [LearnerPage.view_eq_talk, asks]
    rfl
  have lists {r : Except ApiError Json} (ends : Ends (q.talk db).2 r) := lists_of_ends ends
  have ran := keeps_talk q db
  unfold Session.bind at viewed
  -- From here on the talk is known by its protocol alone.
  generalize q.talk db = talked at viewed lists ran
  cases ran with
  | finished talk gave arrived =>
      subst arrived
      refine ⟨_, _, .finished talk gave, lists (.inl rfl), ?_⟩
      rw [viewed]
      simp only [ofRefusal_eq, List.append_nil]
  | broken talk gave next stuck =>
      exact ⟨_, _, .failed talk gave next stuck, lists (.inr ⟨_, rfl, rfl⟩), viewed⟩

end Question

end StudyHall
