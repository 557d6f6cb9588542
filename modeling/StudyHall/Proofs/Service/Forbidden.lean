import StudyHall.Proofs.Domain.Failure
import StudyHall.Proofs.Service.ErrorAnswers
import StudyHall.Proofs.Service.Stranger

/-!
# Who is forbidden something

The status 403 has one source. It is the refusal of a sender who is known by a token for the
console, but by one of a role that may not use it. Whatever else goes wrong at an endpoint, in a
query, a body, a path, a token, the directory or the database, is told by another status.

A computation is gone through by rules for its parts: what a sequence fails with, one of its steps
fails with.

## Main results

* `Session.FailsBy.bind` — the rule for a sequence of statements.
* `Service.operator_of_forbidden` — an endpoint that refuses by 403.
* `Service.operator_of_respond` — a response with 403.
-/

namespace StudyHall

/-! ## Causes for which nothing is forbidden -/

/-- A cause for which nothing is forbidden. -/
def ApiError.NotForbidden (cause : ApiError) : Prop :=
  cause.status ≠ 403

/-- A fault that is no refusal, or one for a cause for which nothing is forbidden. -/
def Fault.NotForbidden (f : Fault ApiError) : Prop :=
  ∀ cause, f = .refused cause → cause.NotForbidden

theorem ApiError.notForbidden_validation (text : String) :
    (ApiError.validation text).NotForbidden := by
  show 400 ≠ 403
  decide

theorem ApiError.notForbidden_database (text : String) :
    (ApiError.database text).NotForbidden := by
  show 500 ≠ 403
  decide

theorem ApiError.notForbidden_internal (text : String) :
    (ApiError.internal text).NotForbidden := by
  show 500 ≠ 403
  decide

theorem ApiError.notForbidden_console (cause : ConsoleError) :
    (ApiError.console cause).NotForbidden := by
  show (ApiError.console cause).status ≠ 403
  cases cause <;> decide

theorem Fault.notForbidden_refused {cause : ApiError} (other : cause.NotForbidden) :
    (Fault.refused cause).NotForbidden := by
  intro _ same
  cases same
  exact other

/-- A fault that comes from the directory or the dashboard forbids nothing. -/
theorem Fault.notForbidden_map (f : Fault ConsoleError) :
    (f.map ApiError.console).NotForbidden := by
  cases f with
  | refused cause => exact notForbidden_refused (ApiError.notForbidden_console cause)
  | outsideCalendar | earlyClock | brokenCharacter => exact nofun

/-! ## What is read of a request -/

open ApiError

section
variable {query : List Char}

theorem failsBy_readQuery (names : List String) :
    FailsBy NotForbidden (readQuery names query) := by
  unfold readQuery
  split
  · exact .ok _
  · exact .error (notForbidden_validation _)

theorem failsBy_examOf (raw : Option String) : FailsBy NotForbidden (examOf raw) := by
  unfold examOf
  split
  · exact .ok _
  · split
    · exact .ok _
    · split
      · exact .ok _
      · exact .error (notForbidden_validation _)

theorem failsBy_operatorRoleOf (raw : Option String) :
    FailsBy NotForbidden (operatorRoleOf raw) := by
  unfold operatorRoleOf
  split
  · exact .ok _
  · split
    · exact .ok _
    · split
      · exact .ok _
      · exact .error (notForbidden_validation _)

theorem failsBy_statusesFrom (parts : List String) :
    FailsBy NotForbidden (statusesFrom parts) := by
  induction parts with
  | nil => exact .ok _
  | cons part rest ih =>
      unfold statusesFrom
      split
      · exact .error (notForbidden_validation _)
      · split
        · exact .ok _
        · next unread => exact .error (ih _ unread)

theorem failsBy_filter (q : OperatorsQuery) : FailsBy NotForbidden q.filter := by
  unfold OperatorsQuery.filter
  split
  · next unread =>
      split at unread
      · exact .error (failsBy_statusesFrom _ _ unread)
      · cases unread
  · split
    · next unread => exact .error (failsBy_operatorRoleOf _ _ unread)
    · exact .ok _

theorem failsBy_subject (q : TopicsQuery) : FailsBy NotForbidden q.subject := by
  unfold TopicsQuery.subject
  split
  · exact .error (notForbidden_validation _)
  · split
    · exact .ok _
    · exact .error (notForbidden_validation _)

theorem failsBy_accept {α : Type} (schema : Schema α) (r : Request) :
    FailsBy NotForbidden (schema.accept r) :=
  schema.failsBy_accept notForbidden_validation r

theorem failsBy_identifier (segment : List Char) :
    FailsBy NotForbidden (DirectoryAction.identifier segment) := by
  unfold DirectoryAction.identifier
  split
  · exact .ok _
  · exact .error (notForbidden_validation _)

theorem failsBy_operation (a : DirectoryAction) (r : Request) (fresh : Uuid) :
    FailsBy NotForbidden (a.operation r fresh) := by
  cases a with
  | list =>
      exact (failsBy_readQuery _).map.bind fun q => (failsBy_filter q).bind fun _ => .ok _
  | create => exact (failsBy_accept _ r).bind fun _ => .ok _
  | update segment =>
      exact (failsBy_identifier segment).bind fun _ => (failsBy_accept _ r).bind fun _ => .ok _
  | delete segment => exact (failsBy_identifier segment).bind fun _ => .ok _
  | setStatus => exact (failsBy_accept _ r).bind fun _ => .ok _
  | remove => exact (failsBy_accept _ r).bind fun _ => .ok _
  | invite => exact (failsBy_accept _ r).bind fun _ => .ok _

end

/-! ## Endpoints -/

section
variable {α : Type}

theorem failsBy_refusing {x : Except ApiError α} (other : FailsBy NotForbidden x) :
    FailsBy Fault.NotForbidden (refusing x) := by
  unfold refusing
  split
  · exact .ok _
  · exact .error (Fault.notForbidden_refused (other _ rfl))

theorem failsBy_liftConsole (x : Except (Fault ConsoleError) α) :
    FailsBy Fault.NotForbidden (liftConsole x) := by
  cases x with
  | ok a => exact .ok a
  | error f => exact .error f.notForbidden_map

theorem failsBy_content (report : Report) (s : Service) (query : List Char) (now : Instant) :
    FailsBy Fault.NotForbidden (report.content s query now) := by
  have read (names : List String) {β : Type} (f : List (String × String) → β) :
      FailsBy Fault.NotForbidden (refusing ((readQuery names query).map f)) :=
    failsBy_refusing (failsBy_readQuery names).map
  have exam (raw : Option String) : FailsBy Fault.NotForbidden (refusing (examOf raw)) :=
    failsBy_refusing (failsBy_examOf raw)
  cases report with
  | ownProfile => exact .ok _
  | timeSeries =>
      refine (read _ _).bind fun q => ?_
      split
      · exact .error (Fault.notForbidden_refused (notForbidden_validation _))
      · exact (exam _).bind fun _ => (failsBy_liftConsole _).bind fun _ => .ok _
  | subjectAccuracy => exact (read _ _).bind fun _ => (exam _).bind fun _ => .ok _
  | weakTopics => exact (read _ _).bind fun _ => (exam _).bind fun _ => .ok _
  | upcomingEvents =>
      refine (read _ _).bind fun q => (exam _).bind fun e => ?_
      split
      · exact .ok _
      · exact .error nofun
  | referrals => exact (read _ _).bind fun _ => .ok _

theorem failsBy_response (a : DirectoryAction) (answer : Directory.Answer) :
    FailsBy Fault.NotForbidden (a.response answer) := by
  unfold DirectoryAction.response
  split
  · exact .error (Fault.notForbidden_map _)
  · exact .ok _

theorem failsBy_sign (tokens : TokenService) (id : Uuid) (role : Role) (exam : Option Exam)
    (now : Instant) : FailsBy Fault.NotForbidden (tokens.sign id role exam now) := by
  unfold TokenService.sign
  split
  · exact .ok _
  · exact .error nofun

theorem failsBy_signIn (account : AdminAccount) (tokens : TokenService) (given : Credentials)
    (now : Instant) : FailsBy Fault.NotForbidden (account.signIn tokens given now) := by
  unfold AdminAccount.signIn
  split
  · split
    · exact .ok _
    · next unsigned => exact .error (failsBy_sign _ _ _ _ _ _ unsigned)
  · exact .error (Fault.notForbidden_refused (show 401 ≠ 403 by decide))

theorem failsBy_sender (tokens : TokenService) (r : Request) (now : Instant) :
    FailsBy Fault.NotForbidden (tokens.sender r now) := by
  intro f refused
  obtain ⟨rfl, -⟩ | ⟨-, cause, mem, rfl⟩ := TokenService.sender_error_cases refused
  · exact nofun
  · have known : ∀ cause ∈ TokenService.unknownCauses, cause.status ≠ 403 := by decide
    exact Fault.notForbidden_refused (known cause mem)

end

/-! ### Sessions -/

namespace Session

variable {α β : Type}

/-- Nothing is forbidden in a session, whatever the database answers. -/
def ForbidsNothing (x : Session α) : Prop :=
  ∀ db, FailsBy Fault.NotForbidden (x db).2

theorem ForbidsNothing.pure (a : α) : ForbidsNothing (Session.pure a) := fun _ => .ok a

theorem ForbidsNothing.fail {cause : ApiError} (other : cause.NotForbidden) :
    ForbidsNothing (Session.fail (.refused cause) : Session α) :=
  fun _ => .error (Fault.notForbidden_refused other)

theorem ForbidsNothing.bind {x : Session α} {f : α → Session β} (first : x.ForbidsNothing)
    (next : ∀ a, (f a).ForbidsNothing) : (x >>= f).ForbidsNothing := by
  intro db
  have here := first db
  show FailsBy _ (Session.bind x f db).2
  unfold Session.bind
  rcases ended : x db with ⟨sent, fault | a⟩
  · exact .error (here _ (by rw [ended]))
  · exact next a db

theorem ForbidsNothing.send (s : Statement) : (Session.send s).ForbidsNothing := by
  intro db
  unfold Session.send
  cases db with
  | unreachable => exact .error (Fault.notForbidden_refused (notForbidden_database _))
  | answering answer =>
      simp only
      split
      · exact .ok _
      · exact .error (Fault.notForbidden_refused (notForbidden_database _))

theorem ForbidsNothing.ofExcept {x : Except (Fault ApiError) α}
    (other : FailsBy Fault.NotForbidden x) : (Session.ofExcept x).ForbidsNothing := fun _ => other

theorem ForbidsNothing.ofRefusal {x : Except ApiError α} (other : FailsBy NotForbidden x) :
    (Session.ofRefusal x).ForbidsNothing := by
  intro db
  cases x with
  | ok a => exact .ok a
  | error e => exact .error (Fault.notForbidden_refused (other _ rfl))

theorem ForbidsNothing.theOne (rows : List α) : (Session.theOne rows).ForbidsNothing := by
  cases rows with
  | nil => exact .fail (notForbidden_database _)
  | cons row rows => exact .pure row

end Session

theorem failsBy_account (u : UserRecord) : FailsBy NotForbidden u.toView := by
  unfold UserRecord.toView
  split
  · exact .error (notForbidden_internal _)
  · split
    · exact .error (notForbidden_internal _)
    · exact .ok _

theorem failsBy_subjects (rows : List SubjectRecord) :
    FailsBy NotForbidden (rows.mapM SubjectRecord.toView) := by
  refine FailsBy.mapM (fun r => ?_) rows
  unfold SubjectRecord.toView
  split
  · exact .error (notForbidden_internal _)
  · exact .ok _

open Session

theorem forbidsNothing_view (page : LearnerPage) (id : Uuid) (query : List Char) :
    (page.view id query).ForbidsNothing := by
  have read (names : List String) {β : Type} (f : List (String × String) → β) :
      (Session.ofRefusal ((readQuery names query).map f)).ForbidsNothing :=
    .ofRefusal (failsBy_readQuery names).map
  cases page with
  | me =>
      refine ForbidsNothing.bind (.bind (.bind (.send _) fun rows => ?_) fun user =>
        .bind (.send _) fun rows => ?_) fun m => .pure _
      · split
        · exact .ofRefusal (failsBy_account _)
        · exact .fail (show 404 ≠ 403 by decide)
      · split
        · exact .pure _
        · exact .pure _
  | subjects =>
      exact (read _ _).bind fun q => (ForbidsNothing.ofRefusal (failsBy_examOf _)).bind fun exam =>
        ForbidsNothing.bind (.bind (.send _) fun rows => .ofRefusal (failsBy_subjects rows))
          fun _ => .pure _
  | topics =>
      exact (read _ _).bind fun q => (ForbidsNothing.ofRefusal (failsBy_subject q)).bind fun id =>
        ForbidsNothing.bind (.bind (.send _) fun rows => .pure _) fun _ => .pure _
  | leaderboard =>
      exact (read _ _).bind fun q => ForbidsNothing.bind
        (.bind (.send _) fun entries => .bind (.send _) fun rows =>
          .bind (.theOne rows) fun stats => .pure _) fun _ => .pure _
  | feed => exact ForbidsNothing.bind (.bind (.send _) fun rows => .pure _) fun _ => .pure _

theorem forbidsNothing_account (t : TelegramSignIn) : t.account.ForbidsNothing := by
  have rest (u : UserRecord) :
      (Session.send .commit >>= fun _ => Session.pure u).ForbidsNothing :=
    .bind (.send _) fun _ => .pure u
  refine ForbidsNothing.bind (.send _) fun _ => .bind (.send _) fun rows => ?_
  simp only
  split
  · exact .bind (.bind (.send _) fun _ => .pure _) rest
  · exact .bind (.bind (.send _) fun rows => .bind (.theOne rows) fun u =>
      .bind (.send _) fun _ => .pure u) rest

theorem failsBy_present (tokens : TokenService) (now : Instant) (u : UserRecord) :
    FailsBy Fault.NotForbidden (TelegramSignIn.present tokens now u) := by
  unfold TelegramSignIn.present
  split
  · next unread => exact .error (Fault.notForbidden_refused (failsBy_account u _ unread))
  · split
    · exact .ok _
    · next unsigned => exact .error (failsBy_sign _ _ _ _ _ _ unsigned)

theorem forbidsNothing_run (t : TelegramSignIn) (tokens : TokenService) (now : Instant) :
    (t.run tokens now).ForbidsNothing := by
  unfold TelegramSignIn.run
  exact (forbidsNothing_account t).bind fun u => .ofExcept (failsBy_present tokens now u)

/-! ## Answers -/

namespace Service

variable {s : Service} {e : Endpoint} {c : Call} {d : Directory}

/-- An endpoint that is not for operators forbids nothing. -/
theorem failsBy_answer (others : e.isForOperators = false) :
    FailsBy Fault.NotForbidden (s.answer e c d).result := by
  cases e with
  | health => exact .ok _
  | ready => exact .ok _
  | learner page =>
      simp only [answer, learnerPage]
      split
      · next unknown => exact .error (failsBy_sender _ _ _ _ unknown)
      · exact (forbidsNothing_view _ _ _ c.database).map
  | telegramSignIn =>
      simp only [answer, telegramSignIn]
      split
      · next rejected =>
          exact .error (Fault.notForbidden_refused (failsBy_accept _ _ _ rejected))
      · exact (forbidsNothing_run _ _ _ c.database).map
  | adminSignIn =>
      simp only [answer, adminSignIn]
      split
      · next rejected =>
          exact .error (Fault.notForbidden_refused (failsBy_accept _ _ _ rejected))
      · exact (failsBy_signIn _ _ _ _).map
  | directory a => cases others
  | report r => cases others

/-- An endpoint for operators forbids nothing to whoever is one. -/
theorem failsBy_answer_of_operator (forOperators : e.isForOperators = true)
    {subject : TokenSubject} (known : s.adminTokens.operator c.request c.now = .ok subject) :
    FailsBy Fault.NotForbidden (s.answer e c d).result := by
  cases e with
  | directory a =>
      simp only [answer, directoryAction, known]
      split
      · next rejected =>
          exact .error (Fault.notForbidden_refused (failsBy_operation _ _ _ _ rejected))
      · exact failsBy_response _ _
  | report r =>
      simp only [answer, reportPage, known]
      exact (failsBy_content _ _ _ _).map
  | health | ready | learner _ | telegramSignIn | adminSignIn => cases forOperators

/-- What an endpoint forbids it forbids for the role of the sender. -/
theorem operator_of_forbidden {cause : ApiError}
    (refused : (s.answer e c d).result = .error (.refused cause)) (forbidden : cause.status = 403) :
    e.isForOperators = true
      ∧ s.adminTokens.operator c.request c.now = .error (.refused .insufficientRole) := by
  cases forOperators : e.isForOperators with
  | false => exact absurd forbidden (failsBy_answer forOperators _ refused cause rfl)
  | true =>
      refine ⟨rfl, ?_⟩
      cases known : s.adminTokens.operator c.request c.now with
      | ok subject =>
          exact absurd forbidden (failsBy_answer_of_operator forOperators known _ refused cause rfl)
      | error f =>
          rw [s.answer_of_stranger forOperators known] at refused
          cases refused
          obtain ⟨early, -⟩ | ⟨-, _, mem, told⟩ := TokenService.operator_error_cases known
          · cases early
          · cases told
            have only : ∀ cause ∈ TokenService.strangerCauses, cause.status = 403 →
                cause = .insufficientRole := by decide
            rw [only cause mem forbidden]

/-- Where an endpoint succeeds nothing is forbidden. -/
theorem status_of_success {r : Response} (succeeded : (s.answer e c d).result = .ok r) :
    r.status ≠ 403 := by
  obtain ⟨status, body, fresh, below | rfl⟩ := s.answer_fresh succeeded
  · rw [fresh, Response.status_of]
    omega
  · simp only [answer, ready, Except.ok.injEq] at succeeded
    rw [← succeeded, Response.status_of]
    split <;> decide

theorem operator_of_endpointVisit {v : Visit} (visited : s.endpointVisit e c d = some v)
    (forbidden : v.response.status = 403) :
    s.adminTokens.operator c.request c.now = .error (.refused .insufficientRole) := by
  rw [endpointVisit_eq] at visited
  obtain ⟨r, given, rfl⟩ := Option.map_eq_some_iff.mp visited
  obtain succeeded | ⟨cause, refused, rfl⟩ := Outcome.response?_eq_some_iff.mp given
  · exact absurd forbidden (status_of_success succeeded)
  · exact (operator_of_forbidden refused forbidden).2

theorem operator_of_routeVisit {v : Visit} (visited : s.routeVisit c d = some v)
    (forbidden : v.response.status = 403) :
    s.adminTokens.operator c.request c.now = .error (.refused .insufficientRole) := by
  cases s.visits_of_routeVisit visited with
  | preflight asked told =>
      rw [told.status] at forbidden
      simp [Service.preflight] at forbidden
  | nowhere => cases (s.status_dress c notFoundPage).symm.trans forbidden
  | @turnedAway r page asked turned told =>
      have known := page.known
      have status : page.status = 403 := by
        rw [told.status, status_dress, Response.status_withHeaders] at forbidden
        exact forbidden
      rw [status] at known
      exact absurd known (by decide)
  | wrongMethod => simp [status_dress, wrongMethodPage] at forbidden
  | endpoint asked found leads reached =>
      exact operator_of_endpointVisit reached
        (by simpa [Visit.mapResponse, status_dress] using forbidden)

/-- Whoever gets a response with the status 403 has sent a token of a role that may not use the
console. -/
theorem operator_of_respond {st st' : State} {response : Response} {statements : List Statement}
    (answered : s.respond c st = some (response, statements, st'))
    (forbidden : response.status = 403) :
    s.adminTokens.operator c.request c.now = .error (.refused .insufficientRole) := by
  obtain ⟨v, rfl, origin⟩ := s.respond_cases answered
  rw [status_finish] at forbidden
  obtain ⟨-, recorder, page⟩ | ⟨-, visited⟩ := origin
  · rw [page, metricsPage] at forbidden
    split at forbidden <;> cases forbidden
  · exact operator_of_routeVisit visited forbidden

/-- So nothing is forbidden to a sender whose token carries a role that may use the console. -/
theorem status_ne_forbidden {st st' : State} {response : Response} {statements : List Statement}
    (answered : s.respond c st = some (response, statements, st'))
    (may : ∀ subject, s.adminTokens.sender c.request c.now = .ok subject →
      subject.role.isAdmin = true) : response.status ≠ 403 := by
  intro forbidden
  have refused := operator_of_respond answered forbidden
  unfold TokenService.operator at refused
  split at refused
  · next unknown =>
      exact failsBy_sender _ _ _ _ unknown _ (Except.error.inj refused) rfl
  · next subject known =>
      rw [may subject known] at refused
      cases refused

end Service

end StudyHall
