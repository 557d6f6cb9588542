import StudyHall.Proofs.Service.ErrorAnswers
import StudyHall.Proofs.Service.Stranger

/-!
# What is told of a fault of the service

A fault of the service has a cause: words of the database, or a stored code that names no exam or no
role. The cause is written down for the operators and does not get out. Whatever went wrong, the
response is one and the same page, which depends on the request alone; only the identifier of the
request is put on it afterwards.

A refusal that is the fault of whoever asked is told in its own words, and these are read back from
the response character by character.

## Main results

* `response_of_fault` — all faults have one response.
* `finish_faultPage` — what is sent after a fault.
* `faults_reveal_nothing` — both kinds of refusals at every endpoint.
-/

namespace StudyHall

/-- The same request to a service with another database, where another identifier is drawn for
it. -/
def Call.meeting (c : Call) (db : Database) (requestId : Uuid) : Call :=
  { c with database := db, requestId := requestId }

/-- All faults of the service have one response. -/
theorem ApiError.response_of_fault {cause : ApiError} (fault : cause.status = 500) :
    cause.response = errorPage 500 "internal server error" := by
  unfold response
  rw [fault, publicMessage_of_eq fault]
  rfl

namespace Service

variable (s : Service) {c : Call}

/-- What is sent after a fault of the service, but for the identifier of the request. -/
def faultPage (c : Call) : Response :=
  let told := s.dress c (errorPage 500 "internal server error")
  if c.request.method = "HEAD" then told.withoutBody else told

/-- The page with the identifier of the request is what is sent. -/
theorem finish_faultPage (c : Call) (db : Database) (requestId : Uuid) :
    finish (c.meeting db requestId)
        (s.dress (c.meeting db requestId) (errorPage 500 "internal server error"))
      = (s.faultPage c).withHeader requestIdName (c.meeting db requestId).identifier :=
  (c.meeting db requestId).mark_eq _

theorem status_faultPage (c : Call) : (s.faultPage c).status = 500 := by
  have status := s.status_dress c (errorPage 500 "internal server error")
  unfold faultPage
  split <;> exact status

/-- The page tells the error in its general sentence, unless only the head of it is sent. -/
theorem tellsError_faultPage (whole : c.request.method ≠ "HEAD") :
    (s.faultPage c).TellsError "internal server error" := by
  unfold faultPage
  rw [if_neg whole]
  exact s.tellsError_dress (Response.tellsError_errorPage 500 _)

theorem body_faultPage (head : c.request.method = "HEAD") : (s.faultPage c).body = .empty := by
  unfold faultPage
  rw [if_pos head]
  rfl

/-- The sign-in of operators is refused for what the caller sent, never for a fault of the
service. -/
theorem status_of_adminSignIn_refused {d : Directory} {cause : ApiError}
    (refused : (s.answer .adminSignIn c d).result = .error (.refused cause)) :
    cause.status < 500 := by
  have signIn (given : Credentials) : FailsBy (fun f => ∀ cause, f = .refused cause →
      cause.status < 500) (s.account.signIn s.adminTokens given c.now) := by
    unfold AdminAccount.signIn TokenService.sign
    split
    · cases s.adminTokens.claims? _ _ _ _ with
      | some claims => exact .ok _
      | none => exact .error nofun
    · exact .error fun cause same => by
        cases same
        decide
  simp only [answer, adminSignIn] at refused
  split at refused
  · next rejected =>
      cases refused
      have unfounded : FailsBy (fun cause : ApiError => cause.status < 500)
          (credentialsSchema.accept c.request) :=
        credentialsSchema.failsBy_accept (fun _ => (by decide : 400 < 500)) _
      exact unfounded _ rejected
  · exact (signIn _).map _ refused cause rfl

/-- There is one page that is sent after every fault of the service, at whatever endpoint and
whatever the database answered: it differs in the identifier of the request only, and it tells the
general sentence. A refusal that is no fault of the service is told as it is, where the limiter does
not turn the caller away first. Of both only the head is sent where no more was asked for. -/
theorem faults_reveal_nothing (c : Call) :
    (∃ page : Response, page.status = 500
        ∧ (c.request.method ≠ "HEAD" → page.TellsError "internal server error")
        ∧ (c.request.method = "HEAD" → page.body = .empty)
        ∧ ∀ e st db requestId cause, s.destination? c.request = some e →
          (s.answer e (c.meeting db requestId) st.directory).result = .error (.refused cause) →
          cause.status = 500 →
          ∃ statements st', s.respond (c.meeting db requestId) st
            = some (page.withHeader requestIdName (c.meeting db requestId).identifier,
                statements, st'))
      ∧ (∀ e st cause, s.destination? c.request = some e → (e = .adminSignIn → c.Passes) →
          (s.answer e c st.directory).result = .error (.refused cause) → cause.status < 500 →
          ∃ response statements st', s.respond c st = some (response, statements, st')
            ∧ response.status = cause.status
            ∧ (c.request.method ≠ "HEAD" → response.TellsError cause.message)
            ∧ (c.request.method = "HEAD" → response.body = .empty))
      ∧ ∀ cause : ApiError, cause.status < 500 →
          cause.response.status = cause.status ∧ cause.response.TellsError cause.message := by
  have own (cause : ApiError) (less : cause.status < 500) :
      cause.response.TellsError cause.message := by
    rw [← ApiError.publicMessage_of_ne (Nat.ne_of_lt less)]
    exact cause.tellsError_response
  refine ⟨⟨s.faultPage c, s.status_faultPage c, s.tellsError_faultPage, s.body_faultPage, ?faults⟩,
    ?refusals, fun cause less => ⟨rfl, own cause less⟩⟩
  case faults =>
    intro e st db requestId cause leads refused fault
    have other : e ≠ .adminSignIn := by
      rintro rfl
      exact absurd fault (Nat.ne_of_lt (s.status_of_adminSignIn_refused refused))
    obtain ⟨recorder, answered⟩ :=
      s.respond_of_destination (c := c.meeting db requestId) st leads other
    rw [Outcome.response?_of_refused refused, Option.map_some, ApiError.response_of_fault fault,
      s.finish_faultPage] at answered
    exact ⟨_, _, answered⟩
  case refusals =>
    intro e st cause leads signIn refused less
    obtain ⟨statements, st', answered⟩ :=
      s.respond_of_refusal leads (s.passes_of_signIn leads signIn) refused
    refine ⟨_, statements, st', answered, ?_, ?_, ?_⟩
    · rw [status_finish, status_dress, Response.status_withHeaders]
      rfl
    · exact tellsError_finish (s.tellsError_dress (tellsError_limited c.limitHere (own cause less)))
    · intro head
      rw [body_finish, if_pos head]

/-- A database that fails in the same words whatever it is asked. -/
def failing (text : String) : Database :=
  .answering fun _ => .error text

/-- A database where the account of every learner is for an exam that there is not. -/
def strangeRolls : Database :=
  .answering fun
    | .findById id => .ok [⟨id, "Ada", none, none, "LAW", "USER", .epoch⟩]
    | _ => .error "closed"

/-- How a visit of a learner who is signed in ends. -/
theorem result_signedCall (page : LearnerPage) (method path query : String) (db : Database)
    (requestId : Uuid) (d : Directory) :
    (sampleHall.answer (.learner page)
        ((signedCall method path query .unreachable).meeting db requestId) d).result
      = (page.view (.ofNat 7) query.toList db).2.map Response.page := by
  exact congrArg Outcome.result (sampleHall.answer_of_sender
    (c := (signedCall method path query .unreachable).meeting db requestId)
    (sender_signedCall method path query .unreachable))

theorem faults_reveal_nothing_sample :
    let c := signedCall "GET" "/me" "" .unreachable
    let failed := c.meeting (failing "disk full") (.ofNat 3)
    let strange := c.meeting strangeRolls (.ofNat 4)
    (sampleHall.answer (.learner .me) failed sampleState.directory).result
        = .error (.refused (.database "disk full"))
      ∧ (sampleHall.answer (.learner .me) strange sampleState.directory).result
        = .error (.refused (.internal
            "user 00000000-0000-0000-0000-000000000007: invalid exam: LAW"))
      ∧ ∃ page : Response, page.status = 500 ∧ page.TellsError "internal server error"
        ∧ (∃ statements st', sampleHall.respond failed sampleState
            = some (page.withHeader requestIdName "00000000-0000-0000-0000-000000000003",
                statements, st'))
        ∧ ∃ statements st', sampleHall.respond strange sampleState
            = some (page.withHeader requestIdName "00000000-0000-0000-0000-000000000004",
                statements, st') := by
  intro c failed strange
  have leads : sampleHall.destination? c.request = some (.learner .me) :=
    sampleHall.destination?_of_route rfl rfl (by decide +kernel) (by decide) (by decide +kernel)
  have diskFull : (sampleHall.answer (.learner .me) failed sampleState.directory).result
      = .error (.refused (.database "disk full")) := result_signedCall ..
  have noExam : (sampleHall.answer (.learner .me) strange sampleState.directory).result
      = .error (.refused (.internal
          "user 00000000-0000-0000-0000-000000000007: invalid exam: LAW")) :=
    (result_signedCall ..).trans rfl
  obtain ⟨⟨page, status, tells, -, sent⟩, -⟩ := faults_reveal_nothing sampleHall c
  have drawn (id : Uuid) (db : Database) : (c.meeting db id).identifier = id.toText := rfl
  have first := sent _ sampleState _ _ _ leads diskFull rfl
  have second := sent _ sampleState _ _ _ leads noExam rfl
  rw [drawn] at first second
  exact ⟨diskFull, noExam, page, status, tells (by decide), first, second⟩

/-- The database fails a learner who is signed in, and where only the head of the page was asked for
the response does not tell any error. -/
theorem fault_untold_to_head :
    let c := signedCall "HEAD" "/me" "" (failing "disk full")
    (sampleHall.answer (.learner .me) c sampleState.directory).result
        = .error (.refused (.database "disk full"))
      ∧ ∃ response statements st', sampleHall.respond c sampleState
            = some (response, statements, st')
          ∧ response.status = 500 ∧ ∀ words, ¬ response.TellsError words := by
  intro c
  have leads : sampleHall.destination? c.request = some (.learner .me) :=
    sampleHall.destination?_of_route rfl rfl (by decide +kernel) (by decide) (by decide +kernel)
  have diskFull : (sampleHall.answer (.learner .me) c sampleState.directory).result
      = .error (.refused (.database "disk full")) := result_signedCall ..
  obtain ⟨statements, st', answered⟩ := sampleHall.respond_of_refusal leads rfl diskFull
  refine ⟨diskFull, _, statements, st', answered, ?_, fun words => ?_⟩
  · rw [status_finish, status_dress]
    rfl
  · exact Response.not_tellsError_of_empty ((body_finish c _).trans (if_pos rfl))

end Service

end StudyHall
