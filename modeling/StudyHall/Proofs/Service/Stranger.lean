import StudyHall.Proofs.Auth.AcceptedToken
import StudyHall.Proofs.Service.DirectoryChange
import StudyHall.Proofs.Service.TwoRuns

/-!
# What strangers learn of the directory

A stranger is whoever is not taken for an operator. Every endpoint that works on the directory first
asks who sent the request, before it reads the path, the query or the body; to a stranger it says so
in one of three refusals, and which one depends on the `Authorization` header and the time alone.
The other endpoints do not look at the directory. So two states of the service that differ in the
directory only are the same to a stranger, and remain so.

A token that is signed is compared with the clock, set back by the minute of grace. Before the first
minute of 1970 is over the clock cannot be set back: then there is no response to it at all.

## Main results

* `operator_error_cases` — why a sender is not taken for an operator.
* `respond_drawing` — the directory, and what is drawn for a request, do not show in a response to a
  stranger, but for the identifier of the request.
* `respond_of_refused`, `respond_of_tooEarly` — what a stranger is told at the console.
* `strangers_learn_nothing` — both for the whole service.
-/

namespace StudyHall

open Text

/-! ## Refused senders -/

namespace TokenService

variable {tokens : TokenService} {r : Request} {now : Instant}

/-- Whether a clock that cannot be set back by the minute of grace is to be compared with the token
of a request. -/
def tooEarly (tokens : TokenService) (r : Request) (now : Instant) : Bool :=
  decide (now.seconds < 60) && (r.bearer?.bind tokens.payload?).isSome

theorem tooEarly_congr {r' : Request}
    (same : r'.header? "authorization" = r.header? "authorization") :
    tokens.tooEarly r' now = tokens.tooEarly r now := by
  simp only [tooEarly, Request.bearer?, Request.headerText?, same]

/-- The refusals of a sender who is not known. -/
def unknownCauses : List ApiError :=
  [.missingToken, .invalidToken]

/-- The refusals of a sender who is not taken for an operator. -/
def strangerCauses : List ApiError :=
  unknownCauses ++ [.insufficientRole]

/-- Why a sender is not known: one of two refusals, or a clock that stands too early. -/
theorem sender_error_cases {f : Fault ApiError} (refused : tokens.sender r now = .error f) :
    (f = .earlyClock ∧ tokens.tooEarly r now = true)
      ∨ (tokens.tooEarly r now = false ∧ ∃ cause ∈ unknownCauses, f = .refused cause) := by
  unfold sender at refused
  unfold tooEarly
  cases carried : r.bearer? with
  | none =>
      simp only [carried] at refused
      cases refused
      exact .inr ⟨by simp, .missingToken, by decide, rfl⟩
  | some token =>
      simp only [carried] at refused
      obtain ⟨rfl, before, signed⟩ | ⟨rfl, rest⟩ := verify_error_cases refused
      · exact .inl ⟨rfl, by simp [before, signed]⟩
      · exact .inr ⟨by simpa using rest, .invalidToken, by decide, rfl⟩

/-- A sender is known at a time that can be compared with a token. -/
theorem tooEarly_of_sender {subject : TokenSubject}
    (known : tokens.sender r now = .ok subject) : tokens.tooEarly r now = false := by
  unfold sender at known
  split at known
  · cases known
  · obtain ⟨p, id, -, minute, -⟩ := verify_eq_ok_iff.mp known
    have since : ¬ now.seconds < 60 := Int.not_lt.mpr minute
    simp [tooEarly, since]

/-- Why a sender is not taken for an operator: one of three refusals, or a clock that stands too
early. -/
theorem operator_error_cases {f : Fault ApiError} (refused : tokens.operator r now = .error f) :
    (f = .earlyClock ∧ tokens.tooEarly r now = true)
      ∨ (tokens.tooEarly r now = false ∧ ∃ cause ∈ strangerCauses, f = .refused cause) := by
  unfold operator at refused
  split at refused
  · next unknown =>
      cases refused
      obtain early | ⟨late, cause, mem, told⟩ := sender_error_cases unknown
      · exact .inl early
      · exact .inr ⟨late, cause, List.mem_append_left _ mem, told⟩
  · next subject known =>
      split at refused
      · cases refused
      · cases refused
        exact .inr ⟨tooEarly_of_sender known, .insufficientRole, by decide, rfl⟩

/-- A signed token is too much for a clock in the first minute of 1970, or before. -/
theorem sender_of_tooEarly (early : tokens.tooEarly r now = true) :
    tokens.sender r now = .error .earlyClock := by
  simp only [tooEarly, Bool.and_eq_true, decide_eq_true_eq, Option.isSome_iff_exists,
    Option.bind_eq_some_iff] at early
  obtain ⟨before, p, token, carried, found⟩ := early
  simp only [sender, carried, verify_eq, found, if_pos before]

theorem operator_of_tooEarly (early : tokens.tooEarly r now = true) :
    tokens.operator r now = .error .earlyClock := by
  unfold operator
  rw [sender_of_tooEarly early]

end TokenService

/-! ## Tokens in headers -/

/-- A token that stands in a header after the word for it is the token of the request. -/
theorem Request.bearer?_of_header {r : Request} {token : String}
    (carried : r.header? "authorization" = some ("Bearer " ++ token))
    (plain : ∀ c ∈ token.toList, isHeaderText c = true ∧ isBlank c = false) :
    r.bearer? = some token := by
  have cut : ("Bearer " ++ token).toList
      = ['B', 'e', 'a', 'r', 'e', 'r', ' '] ++ token.toList := by
    rw [String.toList_append]
    rfl
  have text : r.headerText? "authorization" = some ("Bearer " ++ token) := by
    rw [headerText?, carried, Option.filter_some, if_pos]
    rw [cut, List.all_append, List.all_eq_true.mpr fun c hc => (plain c hc).1]
    rfl
  have whole : token.toList.dropWhile isBlank = token.toList := by
    cases chars : token.toList with
    | nil => rfl
    | cons c cs =>
        have first := (plain c (by rw [chars]; exact List.mem_cons_self)).2
        rw [List.dropWhile_cons, first]
        rfl
  have length : bearerWord.length = 6 := by decide +kernel
  have word : bearerWord.toList = ['b', 'e', 'a', 'r', 'e', 'r'] := by decide +kernel
  simp only [bearer?, text, cut, length, word]
  rw [if_pos ⟨rfl, rfl⟩]
  show some (String.ofList (token.toList.dropWhile isBlank)) = some token
  rw [whole, String.ofList_toList]

/-- A sealed token is plain text without blanks. -/
theorem TokenService.plain_of_mem_seal {s : TokenService} {header payload : Json} {c : Char}
    (mem : c ∈ (s.seal (tokenPart header) (tokenPart payload)).toList) :
    isHeaderText c = true ∧ isBlank c = false := by
  have digits {bytes : List UInt8} (mem : c ∈ Base64Url.encode bytes) :
      isHeaderText c = true ∧ isBlank c = false :=
    Base64Url.of_mem_encode (P := fun c => isHeaderText c = true ∧ isBlank c = false)
      (by decide) mem
  simp only [TokenService.seal, String.toList_ofList, List.mem_append, List.mem_cons] at mem
  rcases mem with (mem | rfl | mem) | rfl | mem
  · exact digits mem
  · decide
  · exact digits mem
  · decide
  · exact digits mem

/-! ## Two runs -/

/-- The same call, for which other identifiers are drawn. -/
def Call.drawing (c : Call) (operatorId requestId : Uuid) : Call :=
  { c with operatorId := operatorId, requestId := requestId }

namespace Service

variable (s : Service) (d₁ : Directory) {d₂ : Directory} {c : Call} {i j : Uuid}

/-- What an endpoint that is for operators does with a stranger. -/
theorem answer_of_stranger {e : Endpoint} {d : Directory} {f : Fault ApiError}
    (forOperators : e.isForOperators = true)
    (refused : s.adminTokens.operator c.request c.now = .error f) :
    s.answer e c d = ⟨.error f, d, [], []⟩ := by
  cases e with
  | directory a => simp only [answer, directoryAction, refused]
  | report r => simp only [answer, reportPage, refused]
  | health => cases forOperators
  | ready => cases forOperators
  | learner page => cases forOperators
  | telegramSignIn => cases forOperators
  | adminSignIn => cases forOperators

/-- The other endpoints do not look at the directory. -/
theorem answer_of_not_forOperators {e : Endpoint} (free : e.isForOperators = false) :
    s.answer e (c.drawing i j) d₂ = { s.answer e c d₁ with directory := d₂ } := by
  cases e with
  | health => rfl
  | ready => rfl
  | learner page =>
      simp only [answer, learnerPage, Call.drawing]
      split <;> rfl
  | telegramSignIn =>
      simp only [answer, telegramSignIn, Call.drawing]
      split <;> rfl
  | adminSignIn =>
      simp only [answer, adminSignIn, Call.drawing]
      split <;> rfl
  | directory a => cases free
  | report r => cases free

variable {f : Fault ApiError} (refused : s.adminTokens.operator c.request c.now = .error f)
include refused

theorem answer_drawing (e : Endpoint) :
    s.answer e (c.drawing i j) d₂ = { s.answer e c d₁ with directory := d₂ } := by
  cases forWhom : e.isForOperators with
  | false => exact s.answer_of_not_forOperators d₁ forWhom
  | true =>
      rw [s.answer_of_stranger forWhom refused,
        s.answer_of_stranger (c := c.drawing i j) forWhom refused]

/-- The directory, and what is drawn for a request, do not show in a response to a stranger, but for
the identifier of the request. -/
theorem respond_drawing (recorder : Metrics.Recorder) :
    s.respond (c.drawing i j) ⟨d₂, recorder⟩
      = (s.respond c ⟨d₁, recorder⟩).map fun a =>
          (a.1.withHeader requestIdName (c.drawing i j).identifier, a.2.1,
            ⟨d₂, a.2.2.recorder⟩) := by
  have alike : c.LooksLike (c.drawing i j) := ⟨rfl, rfl, rfl, rfl⟩
  exact s.respond_congr (f := fun _ => d₂) alike rfl (s.answer_drawing d₁ refused) recorder

omit refused

/-! ## At the console -/

/-- What the paths of the console begin with. -/
def consolePath : List Char := "/admin/".toList

/-- The path under which operators find themselves. -/
def ownProfilePath : List Char := "/auth/admin/me".toList

/-- Whether a path is one of the console. -/
def isConsolePath (path : List Char) : Bool :=
  consolePath.isPrefixOf path || path == ownProfilePath

/-- A call `c'` that the console handles, at the time of the call `c` and with its `Authorization`
header; everything else may be different. -/
structure HandledLike (c c' : Call) : Prop where
  now : c'.now = c.now
  authorization : c'.request.header? "authorization" = c.request.header? "authorization"
  console : isConsolePath c'.request.target.path = true
  handled : ∃ e, s.destination? c'.request = some e

/-- Whatever the console handles is for operators only. -/
theorem isForOperators_of_destination {r : Request} {e : Endpoint}
    (console : isConsolePath r.target.path = true) (leads : s.destination? r = some e) :
    e.isForOperators = true := by
  have guarded : ∀ row ∈ fixedRoutes, isConsolePath row.1.toList = true →
      ∀ entry ∈ row.2, entry.2.isForOperators = true := by
    decide +kernel
  unfold destination? at leads
  split at leads
  · cases leads
  · split at leads
    · cases leads
    · obtain ⟨route, found, hroute⟩ := Option.bind_eq_some_iff.mp leads
      obtain ⟨row, mem, path, entry, own, rfl⟩ | ⟨segment, rfl | rfl⟩ :=
        Route.find?_cases found hroute
      · exact guarded row mem (path ▸ console) entry own
      · rfl
      · rfl

/-- The sign-in is not for operators only, or nobody would become one. -/
theorem ne_adminSignIn_of_isForOperators {e : Endpoint} (forOperators : e.isForOperators = true) :
    e ≠ .adminSignIn := by
  rintro rfl
  cases forOperators

/-- A stranger at the console is told the refusal, with no statement sent and the directory left as
it was. -/
theorem respond_of_refused {e : Endpoint} {st : State} {cause : ApiError}
    (refused : s.adminTokens.operator c.request c.now = .error (.refused cause))
    (leads : s.destination? c.request = some e) (forOperators : e.isForOperators = true) :
    ∃ recorder, s.respond c st
      = some (finish c (s.dress c cause.response), [], ⟨st.directory, recorder⟩) := by
  obtain ⟨recorder, answered⟩ :=
    s.respond_of_destination st leads (ne_adminSignIn_of_isForOperators forOperators)
  rw [s.answer_of_stranger forOperators refused] at answered
  exact ⟨_, answered⟩

/-- A clock that stands too early ends a request to the console for which it would have to be
compared. -/
theorem respond_of_tooEarly {e : Endpoint} {st : State}
    (early : s.adminTokens.tooEarly c.request c.now = true)
    (leads : s.destination? c.request = some e) (forOperators : e.isForOperators = true) :
    s.respond c st = none := by
  have refused := TokenService.operator_of_tooEarly early
  obtain ⟨recorder, unanswered⟩ :=
    s.respond_of_destination st leads (ne_adminSignIn_of_isForOperators forOperators)
  rw [s.answer_of_stranger forOperators refused] at unanswered
  exact unanswered

/-- Whoever is not taken for an operator cannot tell one directory from another: what two states
that differ in it answer to a request is the same, but for an identifier that is drawn for it, and
they go on to differ in the directory only. At the console such a request is refused in the same
way, whatever else it says. Only where a signed token is met before the first minute of 1970 is over
there is no response, and then there is none to any such request. -/
theorem strangers_learn_nothing (c : Call)
    (stranger : ∀ subject, s.adminTokens.operator c.request c.now ≠ .ok subject) :
    (∀ (d₁ d₂ : Directory) (recorder : Metrics.Recorder) (operatorId requestId : Uuid),
      s.respond (c.drawing operatorId requestId) ⟨d₂, recorder⟩
        = (s.respond c ⟨d₁, recorder⟩).map fun a =>
            (a.1.withHeader requestIdName (c.drawing operatorId requestId).identifier, a.2.1,
              ⟨d₂, a.2.2.recorder⟩))
      ∧ (s.adminTokens.tooEarly c.request c.now = false →
          ∃ cause : ApiError, cause.status ∈ [401, 403]
            ∧ ∀ (c' : Call) (st : State), s.HandledLike c c' →
              ∃ response recorder,
                s.respond c' st = some (response, [], ⟨st.directory, recorder⟩)
                  ∧ response.status = cause.status
                  ∧ response.body
                    = if c'.request.method = "HEAD" then .empty else cause.response.body)
      ∧ (s.adminTokens.tooEarly c.request c.now = true →
          ∀ (c' : Call) (st : State), s.HandledLike c c' → s.respond c' st = none) := by
  obtain ⟨f, refused⟩ : ∃ f, s.adminTokens.operator c.request c.now = .error f := by
    cases who : s.adminTokens.operator c.request c.now with
    | ok subject => exact absurd who (stranger subject)
    | error f => exact ⟨f, rfl⟩
  refine ⟨fun d₁ d₂ recorder i j => s.respond_drawing d₁ refused recorder, fun late => ?_,
    fun early => ?_⟩
  · obtain ⟨-, early⟩ | ⟨-, cause, mem, rfl⟩ := TokenService.operator_error_cases refused
    · rw [early] at late
      cases late
    · have refusals : ∀ cause ∈ TokenService.strangerCauses, cause.status ∈ [401, 403] := by decide
      refine ⟨cause, refusals cause mem, ?_⟩
      intro c' st ⟨now, authorization, console, e, leads⟩
      have alike : s.adminTokens.operator c'.request c'.now = .error (.refused cause) := by
        rw [now, TokenService.operator_congr authorization, refused]
      obtain ⟨recorder, answered⟩ : ∃ recorder, s.respond c' st
          = some (finish c' (s.dress c' cause.response), [], ⟨st.directory, recorder⟩) :=
        s.respond_of_refused alike leads (s.isForOperators_of_destination console leads)
      refine ⟨_, recorder, answered, ?_, ?_⟩
      · rw [status_finish, status_dress]
        rfl
      · rw [body_finish, body_dress]
  · intro c' st ⟨now, authorization, console, e, leads⟩
    refine s.respond_of_tooEarly ?_ leads (s.isForOperators_of_destination console leads)
    rw [now, TokenService.tooEarly_congr authorization, early]

/-- A service that has just been launched. -/
def sampleHall : Service where
  environment := .development
  origins := []
  learnerTokens := TokenService.sampleService
  adminTokens := TokenService.sampleService
  account := ⟨"admin", "admin", ⟨.ofNat 1, "Ada", "ada@hall", .superAdmin, .jee, .epoch, []⟩⟩
  dashboard := ⟨.jee⟩
  reportsMetrics := false

/-- Its state. -/
def sampleState : State :=
  ⟨Directory.seeded sampleHall.account.profile, .empty⟩

/-- A request for the list of operators, with the given headers. -/
def sampleVisit (headers : List (String × String)) (now : Instant) : Call :=
  ⟨⟨"GET", ⟨operatorsPath, []⟩, headers, []⟩, now, .unreachable, .ofNat 2, .ofNat 3, .free⟩

/-- The first time at which the sample token is accepted. -/
def signedTime : Instant := { Instant.epoch with seconds := 60 }

/-- A request of a learner who is signed in, for a service with the given database. -/
def signedCall (method path query : String) (db : Database) : Call :=
  ⟨⟨method, ⟨path.toList, query.toList⟩,
    [("authorization", "Bearer " ++ TokenService.sampleToken)], []⟩,
    signedTime, db, .ofNat 2, .ofNat 3, .free⟩

/-- The sample token is signed, so the clock is to be compared with it, however early it stands. -/
theorem tooEarly_sampleToken {r : Request} {now : Instant}
    (carried : r.bearer? = some TokenService.sampleToken) (early : now.seconds < 60) :
    TokenService.sampleService.tooEarly r now = true := by
  have signed : TokenService.sampleService.payload? TokenService.sampleToken
      = some ⟨TokenService.sampleClaims, false⟩ :=
    (TokenService.payload?_seal (TokenService.isInt64_seconds .epoch)
      (TokenService.isInt64_seconds ⟨3600, 0, by decide⟩)).trans (if_pos (by decide +kernel))
  unfold TokenService.tooEarly
  rw [carried, Option.bind_some, signed, decide_eq_true early]
  rfl

/-- A request of a learner who is signed in carries the sample token. -/
theorem bearer?_signedCall (method path query : String) (db : Database) :
    (signedCall method path query db).request.bearer? = some TokenService.sampleToken :=
  Request.bearer?_of_header rfl fun _ => TokenService.plain_of_mem_seal

/-- The learner is known by the token. -/
theorem sender_signedCall (method path query : String) (db : Database) :
    sampleHall.learnerTokens.sender (signedCall method path query db).request signedTime
      = .ok ⟨.ofNat 7, .admin, some .jee⟩ :=
  (TokenService.sender_of_bearer? (bearer?_signedCall method path query db)).trans
    (TokenService.verify_sampleToken (by decide) (by decide))

theorem strangers_learn_nothing_sample :
    let c := sampleVisit [] .epoch
    (∀ subject, sampleHall.adminTokens.operator c.request c.now ≠ .ok subject)
      ∧ sampleHall.adminTokens.tooEarly c.request c.now = false
      ∧ sampleHall.HandledLike c c
      ∧ (∃ response recorder,
          sampleHall.respond c sampleState
              = some (response, [], ⟨sampleState.directory, recorder⟩)
            ∧ response.status ∈ [401, 403])
      ∧ sampleHall.respond c ⟨.empty, .empty⟩
        = (sampleHall.respond c sampleState).map fun a =>
            (a.1.withHeader requestIdName (Uuid.ofNat 3).toText, a.2.1,
              ⟨.empty, a.2.2.recorder⟩) := by
  intro c
  have stranger : ∀ subject, sampleHall.adminTokens.operator c.request c.now ≠ .ok subject := by
    intro subject accepted
    cases accepted
  have late : sampleHall.adminTokens.tooEarly c.request c.now = false := rfl
  have alike : sampleHall.HandledLike c c :=
    ⟨rfl, rfl, by decide +kernel, .directory .list, by decide +kernel⟩
  obtain ⟨same, refused, -⟩ := strangers_learn_nothing sampleHall c stranger
  obtain ⟨cause, status, told⟩ := refused late
  obtain ⟨response, recorder, answered, told, -⟩ := told c sampleState alike
  exact ⟨stranger, late, alike, ⟨response, recorder, answered, told ▸ status⟩,
    same sampleState.directory .empty .empty (.ofNat 2) (.ofNat 3)⟩

/-- A second before 1970 a signed token makes nobody an operator, and yet the request for the list
of operators is not refused: it has no response. -/
theorem untold_before_epoch :
    let c := sampleVisit [("authorization", "Bearer " ++ TokenService.sampleToken)]
      ⟨-1, 0, by decide⟩
    (∀ subject, sampleHall.adminTokens.operator c.request c.now ≠ .ok subject)
      ∧ sampleHall.HandledLike c c
      ∧ sampleHall.respond c sampleState = none := by
  intro c
  have bearer : c.request.bearer? = some TokenService.sampleToken :=
    Request.bearer?_of_header rfl fun _ => TokenService.plain_of_mem_seal
  have early : sampleHall.adminTokens.tooEarly c.request c.now = true :=
    tooEarly_sampleToken bearer (by decide)
  have leads : sampleHall.destination? c.request = some (.directory .list) :=
    sampleHall.destination?_of_route rfl rfl (by decide +kernel) (by decide +kernel)
      (by decide +kernel)
  refine ⟨?_, ⟨rfl, rfl, by decide +kernel, _, leads⟩,
    sampleHall.respond_of_tooEarly early leads rfl⟩
  intro subject accepted
  rw [TokenService.operator_of_tooEarly early] at accepted
  cases accepted

end Service

end StudyHall
