import StudyHall.Proofs.Learner.PageRuns
import StudyHall.Proofs.Service.ErrorAnswers
import StudyHall.Proofs.Service.Stranger

/-!
# Reading as a learner

A page for learners is guarded twice before the database is asked for anything: the request must
carry a token that is accepted at the time, and its query must not be refused. After that the page
puts the one question that the query leads to, for the holder of the token, and what is sent and
told from then on follows the protocol of the pages. All of it can be said of the response that is
sent.

## Main results

* `respond_of_result` — the response is how the page ended.
* `page_unknown`, `page_early`, `page_refused`, `page_asked` — the four ways it can end.
* `pages_ask_when_accepted` — all of them for one request.
-/

namespace StudyHall

/-- The path of a page for learners. -/
def LearnerPage.path : LearnerPage → List Char
  | .me => "/me".toList
  | .subjects => "/subjects".toList
  | .topics => "/topics".toList
  | .leaderboard => "/leaderboard".toList
  | .feed => "/feed".toList

/-- Whether a response tells how a page ended. -/
def Response.Tells (r : Response) : Except ApiError Json → Prop
  | .ok shown => r.status = 200 ∧ r.body = .json shown
  | .error cause => r.status = cause.status ∧ r.TellsError cause.publicMessage

/-- Who sent a request is known by a token that is accepted. -/
theorem TokenService.sender_eq_ok_iff {tokens : TokenService} {r : Request} {now : Instant}
    {subject : TokenSubject} :
    tokens.sender r now = .ok subject ↔
      ∃ token, r.bearer? = some token ∧ tokens.verify token now = .ok subject := by
  unfold sender
  cases r.bearer? with
  | none => simp
  | some token => simp

namespace Service

variable (s : Service) (st : State) {c : Call} {page : LearnerPage}

/-- A page for learners is asked for under its path. -/
theorem destination?_of_page (get : c.request.method = "GET")
    (path : c.request.target.path = page.path) :
    s.destination? c.request = some (.learner page) := by
  refine s.destination?_of_route path get ?_ (by decide) ?_
  · cases page <;> decide +kernel
  · cases page <;> decide +kernel

/-- The response is how the page ended. -/
theorem respond_of_result (get : c.request.method = "GET")
    (path : c.request.target.path = page.path) {sent : List Statement}
    {result : Except ApiError Json}
    (answered : s.answer (.learner page) c st.directory
      = ⟨(result.mapError Fault.refused).map Response.page, st.directory, sent, []⟩) :
    ∃ response recorder, s.respond c st = some (response, sent, ⟨st.directory, recorder⟩)
      ∧ response.Tells result := by
  have whole : c.request.method ≠ "HEAD" := by
    rw [get]
    decide
  obtain ⟨recorder, responded⟩ :=
    s.respond_of_destination st (s.destination?_of_page get path) (fun same => by cases same)
  rw [answered] at responded
  cases result with
  | ok shown =>
      refine ⟨_, _, responded, ?_, ?_⟩
      · rw [status_finish, status_dress]
        rfl
      · rw [body_finish, if_neg whole, body_dress]
        rfl
  | error cause =>
      refine ⟨_, _, responded, ?_, ?_⟩
      · rw [status_finish, status_dress]
        rfl
      · exact tellsError_finish (s.tellsError_dress cause.tellsError_response) whole

/-- A page is refused to whoever is not known, before the query is looked at. -/
theorem page_unknown (get : c.request.method = "GET") (path : c.request.target.path = page.path)
    {cause : ApiError}
    (refused : s.learnerTokens.sender c.request c.now = .error (.refused cause)) :
    ∃ response recorder, s.respond c st = some (response, [], ⟨st.directory, recorder⟩)
      ∧ response.Tells (.error cause) := by
  refine s.respond_of_result st get path ?_
  simp only [answer, learnerPage, refused]
  rfl

/-- A clock that stands too early ends a request for a page for which it would have to be
compared. -/
theorem page_early (get : c.request.method = "GET") (path : c.request.target.path = page.path)
    (early : s.learnerTokens.tooEarly c.request c.now = true) :
    s.respond c st = none ∧ (s.answer (.learner page) c st.directory).statements = [] := by
  have ended : s.answer (.learner page) c st.directory
      = ⟨.error .earlyClock, st.directory, [], []⟩ := by
    simp only [answer, learnerPage, TokenService.sender_of_tooEarly early]
  obtain ⟨recorder, responded⟩ :=
    s.respond_of_destination st (s.destination?_of_page get path) (fun same => by cases same)
  rw [ended] at responded
  exact ⟨responded, by rw [ended]⟩

variable {subject : TokenSubject}

/-- A page is what its session leaves behind. -/
theorem answer_of_view (sender : s.learnerTokens.sender c.request c.now = .ok subject)
    {sent : List Statement} {result : Except ApiError Json}
    (viewed : page.view subject.userId c.request.target.query c.database
      = (sent, result.mapError Fault.refused)) :
    s.answer (.learner page) c st.directory
      = ⟨(result.mapError Fault.refused).map Response.page, st.directory, sent, []⟩ := by
  rw [s.answer_of_sender sender]
  unfold Session.outcome
  rw [viewed]

/-- A learner whose query is refused is told so, and the database is not asked. -/
theorem page_refused (get : c.request.method = "GET") (path : c.request.target.path = page.path)
    (sender : s.learnerTokens.sender c.request c.now = .ok subject)
    (refuses : page.Refuses c.request.target.query) :
    ∃ cause response recorder, s.respond c st = some (response, [], ⟨st.directory, recorder⟩)
      ∧ cause.status = 400 ∧ response.Tells (.error cause) := by
  obtain ⟨cause, refused, status⟩ :=
    LearnerPage.question_of_refuses subject.userId refuses
  have viewed : page.view subject.userId c.request.target.query c.database
      = ([], (Except.error cause : Except ApiError Json).mapError Fault.refused) := by
    rw [LearnerPage.view_eq_talk, refused]
    rfl
  obtain ⟨response, recorder, responded, tells⟩ :=
    s.respond_of_result st get path (s.answer_of_view st sender viewed)
  exact ⟨cause, response, recorder, responded, status, tells⟩

/-- A learner whose query is not refused is told how the question ended. -/
theorem page_asked (get : c.request.method = "GET") (path : c.request.target.path = page.path)
    (sender : s.learnerTokens.sender c.request c.now = .ok subject) {q : Question}
    (asks : page.Asks subject.userId c.request.target.query q) :
    ∃ response sent result recorder,
      s.respond c st = some (response, sent, ⟨st.directory, recorder⟩)
        ∧ response.Tells result ∧ q.Put c.database sent result ∧ q.Lists c.database result := by
  obtain ⟨sent, result, put, lists, viewed⟩ :=
    Question.view_of_question (LearnerPage.question_of_asks asks) c.database
  obtain ⟨response, recorder, responded, tells⟩ :=
    s.respond_of_result st get path (s.answer_of_view st sender viewed)
  exact ⟨response, sent, result, recorder, responded, tells, put, lists⟩

/-- Who asks for a page for learners, and what with, decides whether the database is asked for
anything.

Whoever carries no token that is accepted is refused with 401. Only where a signed token is met
before the first minute of 1970 is over there is no response, and no statement is sent either. A
learner whose query is refused is told so with 400. Every other query leads to a question; this
comes first, every statement is one that the question needs, none is sent after a failure, and the
response tells how the talk ended. If nothing failed, a list has one item for each row, in the order
of the rows, unless one subject is of an unknown exam: then the whole list is a fault of the
service. -/
theorem pages_ask_when_accepted (get : c.request.method = "GET")
    (path : c.request.target.path = page.path) :
    ((∀ token subject, c.request.bearer? = some token →
          s.learnerTokens.verify token c.now ≠ .ok subject) →
        (s.learnerTokens.tooEarly c.request c.now = false →
          ∃ cause response recorder,
            s.respond c st = some (response, [], ⟨st.directory, recorder⟩)
              ∧ cause.status = 401 ∧ response.Tells (.error cause))
        ∧ (s.learnerTokens.tooEarly c.request c.now = true →
          s.respond c st = none ∧ (s.answer (.learner page) c st.directory).statements = []))
      ∧ ∀ token subject, c.request.bearer? = some token →
        s.learnerTokens.verify token c.now = .ok subject →
        (page.Refuses c.request.target.query →
          ∃ cause response recorder,
            s.respond c st = some (response, [], ⟨st.directory, recorder⟩)
              ∧ cause.status = 400 ∧ response.Tells (.error cause))
        ∧ (¬ page.Refuses c.request.target.query →
          ∃ q, page.Asks subject.userId c.request.target.query q)
        ∧ ∀ q, page.Asks subject.userId c.request.target.query q →
          (∀ limit, q = .places limit → 1 ≤ limit ∧ limit ≤ Text.maxInt64)
          ∧ ∃ response sent result recorder,
            s.respond c st = some (response, sent, ⟨st.directory, recorder⟩)
              ∧ response.Tells result ∧ q.Put c.database sent result
              ∧ (∀ answer, c.database = .answering answer → sent.head? = some q.statement)
              ∧ (∀ statement ∈ sent, q.Needs c.database statement)
              ∧ (∀ statement ∈ sent.dropLast, ∃ a, c.database.reply statement = .ok a)
              ∧ q.Lists c.database result := by
  constructor
  · intro unknown
    obtain ⟨f, refused⟩ : ∃ f, s.learnerTokens.sender c.request c.now = .error f := by
      cases who : s.learnerTokens.sender c.request c.now with
      | error f => exact ⟨f, rfl⟩
      | ok subject =>
          obtain ⟨token, carried, accepted⟩ := TokenService.sender_eq_ok_iff.mp who
          exact absurd accepted (unknown token subject carried)
    refine ⟨fun late => ?_, s.page_early st get path⟩
    obtain ⟨-, early⟩ | ⟨-, cause, mem, rfl⟩ := TokenService.sender_error_cases refused
    · rw [early] at late
      cases late
    · have refusals : ∀ cause ∈ TokenService.unknownCauses, cause.status = 401 := by decide
      obtain ⟨response, recorder, responded, tells⟩ := s.page_unknown st get path refused
      exact ⟨cause, response, recorder, responded, refusals cause mem, tells⟩
  · intro token subject carried accepted
    have sender := TokenService.sender_eq_ok_iff.mpr ⟨token, carried, accepted⟩
    refine ⟨s.page_refused st get path sender, fun wellFormed => ?_, fun q asks => ⟨?_, ?_⟩⟩
    · exact (page.asks_or_refuses subject.userId c.request.target.query).resolve_left wellFormed
    · rintro limit rfl
      exact LearnerPage.limit_bounds asks
    · obtain ⟨response, sent, result, recorder, responded, tells, put, lists⟩ :=
        s.page_asked st get path sender asks
      refine ⟨response, sent, result, recorder, responded, tells, put, ?_,
        Question.needs_of_put put,
        Question.answered_of_put put, lists⟩
      intro answer known
      rw [known] at put
      exact Question.head_of_put put

/-- A database with the given subjects, where the row of every learner is that of another one. -/
def mixedRolls (subjects : List SubjectRecord) : Database :=
  .answering fun
    | .findById _ => .ok [⟨.ofNat 8, "Bo", none, none, "jee", "USER", .epoch⟩]
    | .findExamProfile .. => .ok []
    | .listSubjects _ => .ok subjects
    | _ => .error "closed"

/-- A subject of an exam. -/
def optics : SubjectRecord := ⟨.ofNat 5, "JEE", "Optics", true⟩

/-- A learner who is signed in asks for the subjects of an exam. -/
theorem pages_ask_when_accepted_sample :
    let c := signedCall "GET" "/subjects" "exam=+jee" (mixedRolls [optics])
    c.request.target.path = LearnerPage.subjects.path
      ∧ c.request.bearer? = some TokenService.sampleToken
      ∧ sampleHall.learnerTokens.verify TokenService.sampleToken c.now
        = .ok ⟨.ofNat 7, .admin, some .jee⟩
      ∧ LearnerPage.subjects.Asks (.ofNat 7) c.request.target.query (.subjects (some .jee))
      ∧ ∃ response sent st' views,
        sampleHall.respond c sampleState = some (response, sent, st')
          ∧ sent.head? = some (.listSubjects (some "JEE"))
          ∧ (∀ statement ∈ sent, statement = .listSubjects (some "JEE"))
          ∧ List.Forall₂ SubjectRecord.ShownAs [optics] views
          ∧ response.status = 200
          ∧ response.body = .json (Json.ofList SubjectView.toJson views) := by
  intro c
  have path : c.request.target.path = LearnerPage.subjects.path := rfl
  have carried := bearer?_signedCall "GET" "/subjects" "exam=+jee" (mixedRolls [optics])
  have accepted : sampleHall.learnerTokens.verify TokenService.sampleToken c.now
      = .ok ⟨.ofNat 7, .admin, some .jee⟩ :=
    TokenService.verify_sampleToken (by decide) (by decide)
  have given : Form.valuesOf "exam" c.request.target.query = (some " jee").toList := by
    decide +kernel
  have present : presentText (some " jee") = some "jee" := by decide +kernel
  have asks : LearnerPage.subjects.Asks (.ofNat 7) c.request.target.query (.subjects (some .jee)) :=
    .exam given present (by decide +kernel)
  obtain ⟨-, -, asked⟩ :=
    (pages_ask_when_accepted sampleHall sampleState rfl path).2 _ _ carried accepted
  obtain ⟨-, response, sent, result, recorder, responded, tells, -, first, needs, -, lists⟩ :=
    asked _ asks
  obtain ⟨views, shown, rfl⟩ := (lists [optics] rfl).2 (by decide +kernel)
  refine ⟨path, carried, accepted, asks, response, sent, _, views, responded, first _ rfl, ?_,
    shown,
    tells.1, tells.2⟩
  intro statement mem
  cases needs statement mem
  rfl

/-- A second before 1970 a signed token makes nobody a learner, and yet the request for the page is
not refused: it has no response. At a later time, the progress that is asked for is not that of the
holder of the token, if the row of the account is that of another learner. -/
theorem early_untold_and_rows_followed :
    let early := { signedCall "GET" "/me" "" .unreachable with now := ⟨-1, 0, by decide⟩ }
    let c := signedCall "GET" "/me" "" (mixedRolls [])
    ((∀ token subject, early.request.bearer? = some token →
          sampleHall.learnerTokens.verify token early.now ≠ .ok subject)
        ∧ sampleHall.respond early sampleState = none)
      ∧ sampleHall.learnerTokens.sender c.request c.now = .ok ⟨.ofNat 7, .admin, some .jee⟩
      ∧ ∃ response st', sampleHall.respond c sampleState
        = some (response, [.findById (.ofNat 7), .findExamProfile (.ofNat 8) "JEE"], st') := by
  intro early c
  have before : sampleHall.learnerTokens.tooEarly early.request early.now = true :=
    tooEarly_sampleToken (bearer?_signedCall "GET" "/me" "" .unreachable) (by decide)
  have earlyPath : early.request.target.path = LearnerPage.me.path := rfl
  have path : c.request.target.path = LearnerPage.me.path := rfl
  have known := sender_signedCall "GET" "/me" "" (mixedRolls [])
  obtain ⟨shown, viewed⟩ : ∃ shown : Json, LearnerPage.me.view (.ofNat 7) [] (mixedRolls [])
      = ([.findById (.ofNat 7), .findExamProfile (.ofNat 8) "JEE"],
          (Except.ok shown : Except ApiError Json).mapError Fault.refused) := ⟨_, rfl⟩
  obtain ⟨response, recorder, responded, -⟩ := sampleHall.respond_of_result sampleState (c := c) rfl
    path (sampleHall.answer_of_view sampleState known viewed)
  refine ⟨⟨fun token subject carried accepted => ?_,
    (sampleHall.page_early sampleState rfl earlyPath before).1⟩, known, response, _, responded⟩
  have accepted := TokenService.sender_eq_ok_iff.mpr ⟨token, carried, accepted⟩
  rw [TokenService.sender_of_tooEarly before] at accepted
  cases accepted

end Service

end StudyHall
