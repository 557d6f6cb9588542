import StudyHall.Proofs.Domain.Failure
import StudyHall.Proofs.Json.Record
import StudyHall.Proofs.Service.DirectoryChange
import StudyHall.Proofs.Service.Launch

/-!
# How errors are told

An error is told in one form: an object in JSON whose one field holds the words for it. Refusals of
the endpoints have this form, and so has the page for a path that leads nowhere; the layers around
them leave media type and content alone. An endpoint that succeeds never answers with a status from
400 on, but for the one that says whether the service is ready.

Two kinds of responses do not have the form. The response to a method that a path does not have has
no content at all, and where the limiter turns a caller away its page is plain text of no declared
media type. So an error is told in the form exactly if it comes from an endpoint or from a path that
leads nowhere.

## Main results

* `tellsError_errorPage` — the form is read back from the text of a response, whatever the words.
* `tellsError_of_respond`, `respond_of_lacksMethod`, `respond_of_limit` — the three kinds of errors.
* `errors_told_but_for_methods` — all three, for every request.
-/

namespace StudyHall

/-! ## The form of an error -/

/-- Whether a response tells an error in some words: it declares JSON, and its text is that of an
object with one field, which holds the words. -/
structure Response.TellsError (r : Response) (words : String) : Prop where
  declared : r.values "content-type" = ["application/json"]
  written : Json.parse? r.body.text = some (.object [(some "error", .text words)])

/-- The response that tells an error. -/
def errorPage (status : Nat) (words : String) : Response :=
  Response.of status (.json (Json.ofFields [("error", .text words)]))

namespace Response

variable {r r' : Response} {words : String}

/-- The form is read back from the text of a response, whatever the words. -/
theorem tellsError_errorPage (status : Nat) (words : String) :
    (errorPage status words).TellsError words where
  declared := rfl
  written := by
    have readable : Json.Readable (Json.ofFields [("error", .text words)]) :=
      Json.Readable.ofFields fun f mem => by
        obtain rfl := List.mem_singleton.mp mem
        exact Json.Readable.text words
    exact Json.parse?_render readable

/-- Whether a response tells an error shows in its media type and its content. -/
theorem TellsError.congr (declared : r'.values "content-type" = r.values "content-type")
    (content : r'.body = r.body) (tells : r.TellsError words) : r'.TellsError words where
  declared := declared.trans tells.declared
  written := by
    rw [content]
    exact tells.written

/-- A response without content tells no error. -/
theorem not_tellsError_of_empty (empty : r.body = .empty) : ¬ r.TellsError words := by
  intro tells
  have written := tells.written
  have silent : Json.parse? Body.empty.text = none := by decide +kernel
  rw [empty, silent] at written
  cases written

/-- A response of no declared media type tells no error, whatever its content. -/
theorem not_tellsError_of_undeclared (undeclared : r.values "content-type" = []) :
    ¬ r.TellsError words := by
  intro tells
  have declared := tells.declared
  rw [undeclared] at declared
  cases declared

end Response

/-- A refusal is told in its public words. -/
theorem ApiError.tellsError_response (cause : ApiError) :
    cause.response.TellsError cause.publicMessage :=
  Response.tellsError_errorPage cause.status cause.publicMessage

/-- A refusal that is not the fault of the service is told as it is. -/
theorem ApiError.publicMessage_of_ne {cause : ApiError} (own : cause.status ≠ 500) :
    cause.publicMessage = cause.message := by
  unfold publicMessage isInternal
  rw [if_neg (by simpa using own)]

/-- A refusal that is the fault of the service is told in one general sentence. -/
theorem ApiError.publicMessage_of_eq {cause : ApiError} (fault : cause.status = 500) :
    cause.publicMessage = "internal server error" := by
  unfold publicMessage isInternal
  rw [if_pos (by simpa using fault)]

/-- A body is only ever refused as not valid. -/
theorem Schema.failsBy_accept {α : Type} {P : ApiError → Prop}
    (holds : ∀ text, P (.validation text)) (schema : Schema α) (r : Request) :
    FailsBy P (schema.accept r) := by
  unfold Schema.accept
  split
  · split
    · unfold Schema.check
      split
      · exact .ok _
      · exact .error (holds _)
    · exact .error (holds _)
  · exact .error (holds _)

namespace Service

variable (s : Service) {c : Call} {d : Directory}

/-! ## Layers -/

/-- An error that is told is still told when the response leaves the routes. -/
theorem tellsError_dress {r : Response} {words : String} (tells : r.TellsError words) :
    (s.dress c r).TellsError words :=
  tells.congr (s.values_dress_contentType c r) (s.body_dress c r)

/-- So it is when the response is sent, unless only its head was asked for. -/
theorem tellsError_finish {r : Response} {words : String} (tells : r.TellsError words)
    (whole : c.request.method ≠ "HEAD") : (finish c r).TellsError words :=
  tells.congr (values_finish (by decide)) ((body_finish c r).trans (if_neg whole))

/-- The limiter touches neither the media type nor the content. -/
theorem tellsError_limited {r : Response} {words : String} (l : Limit)
    (tells : r.TellsError words) : (r.withHeaders l.headers).TellsError words :=
  tells.congr (Limit.values_withHeaders (by decide)) (Response.body_withHeaders r l.headers)

/-! ## Where the service is ready -/

/-- The path that is asked whether the service is ready. -/
def readyPath : List Char := "/health/ready".toList

/-- No other path leads to the endpoint that says so. -/
theorem path_of_ready {method : String} {path : List Char} {route : Route}
    (found : Route.find? path = some route) (leads : route.endpoint? method = some .ready) :
    path = readyPath := by
  have only : ∀ row ∈ fixedRoutes, ∀ entry ∈ row.2,
      entry.2 = .ready → row.1.toList = readyPath := by
    decide +kernel
  obtain ⟨row, mem, rfl, entry, own, ready⟩ | ⟨segment, other | other⟩ :=
    Route.find?_cases found leads
  · exact only row mem entry own ready
  · cases other
  · cases other

/-! ## The kinds of errors -/

/-- Whether a request uses a method that its path does not have. -/
def LacksMethod (r : Request) : Prop :=
  (s.reportsMetrics = true ∧ r.target.path = metricsPath ∧ r.method ∉ ["GET", "HEAD"])
    ∨ r.method ≠ preflightMethod
      ∧ ∃ route, Route.find? r.target.path = some route ∧ route.endpoint? r.method = none

/-- A request that leads to an endpoint uses a method that its path has. -/
theorem not_lacksMethod_of_destination {r : Request} {e : Endpoint}
    (leads : s.destination? r = some e) : ¬ s.LacksMethod r := by
  unfold destination? at leads
  split at leads
  · cases leads
  · next noFigures =>
      rintro (⟨figures, path, -⟩ | ⟨asked, route, found, lacks⟩)
      · simp [figures, path] at noFigures
      · rw [if_neg asked, found, Option.bind_some, lacks] at leads
        cases leads

/-- An endpoint that is visited answers with an error only if it tells it. -/
theorem tellsError_of_endpointVisit {e : Endpoint} {v : Visit}
    (visited : s.endpointVisit e c d = some v) (failed : 400 ≤ v.response.status)
    (other : e ≠ .ready) : ∃ words, v.response.TellsError words := by
  rw [endpointVisit_eq] at visited
  obtain ⟨r, given, rfl⟩ := Option.map_eq_some_iff.mp visited
  obtain answered | ⟨cause, -, rfl⟩ := Outcome.response?_eq_some_iff.mp given
  · obtain ⟨status, body, rfl, below | ready⟩ := s.answer_fresh answered
    · exact absurd failed (Nat.not_le.mpr below)
    · exact absurd ready other
  · exact ⟨_, cause.tellsError_response⟩

theorem tellsError_of_routeVisit {v : Visit} (visited : s.routeVisit c d = some v)
    (failed : 400 ≤ v.response.status) (other : c.request.target.path ≠ readyPath)
    (has : ¬ s.LacksMethod c.request) (passes : c.Passes) :
    ∃ words, v.response.TellsError words := by
  cases s.visits_of_routeVisit visited with
  | preflight asked told =>
      rw [told.status] at failed
      simp [Service.preflight] at failed
  | nowhere => exact ⟨_, s.tellsError_dress (Response.tellsError_errorPage 404 "not found")⟩
  | turnedAway asked turned =>
      rw [passes] at turned
      cases turned
  | wrongMethod asked found lacks => exact absurd (.inr ⟨asked, _, found, lacks⟩) has
  | @endpoint route e own asked found leads reached =>
      have notReady : e ≠ .ready := by
        rintro rfl
        exact other (path_of_ready found leads)
      have own_failed : 400 ≤ own.response.status := by
        simpa [Visit.mapResponse, status_dress] using failed
      obtain ⟨words, tells⟩ := s.tellsError_of_endpointVisit reached own_failed notReady
      exact ⟨words, s.tellsError_dress (tellsError_limited c.limitHere tells)⟩

/-- An error that is neither for a method nor of the limiter is told. -/
theorem tellsError_of_respond {st st' : State} {response : Response} {statements : List Statement}
    (answered : s.respond c st = some (response, statements, st')) (failed : 400 ≤ response.status)
    (whole : c.request.method ≠ "HEAD") (other : c.request.target.path ≠ readyPath)
    (has : ¬ s.LacksMethod c.request) (passes : c.Passes) :
    ∃ words, response.TellsError words := by
  obtain ⟨v, rfl, origin⟩ := s.respond_cases answered
  rw [status_finish] at failed
  suffices told : ∃ words, v.response.TellsError words by
    obtain ⟨words, tells⟩ := told
    exact ⟨words, tellsError_finish tells whole⟩
  obtain ⟨figures, recorder, page⟩ | ⟨-, visited⟩ := origin
  · rw [page, metricsPage] at failed
    split at failed
    · rw [Response.status_of] at failed
      omega
    · next lacks => exact absurd (.inl ⟨figures.1, figures.2, by simpa using lacks⟩) has
  · exact s.tellsError_of_routeVisit visited failed other has passes

/-- An error for a method is not told: the response has no content and no media type. -/
theorem respond_of_lacksMethod (lacks : s.LacksMethod c.request) (passes : c.Passes) (st : State) :
    ∃ response recorder, s.respond c st = some (response, [], ⟨st.directory, recorder⟩)
      ∧ response.status = 405 ∧ response.values "content-type" = [] ∧ response.body = .empty := by
  suffices visited : ∃ r, (∀ recorder, s.visit c ⟨st.directory, recorder⟩
        = some ⟨r, st.directory, [], []⟩)
      ∧ r.status = 405 ∧ r.values "content-type" = [] ∧ r.body = .empty by
    obtain ⟨r, visited, status, mediaType, content⟩ := visited
    obtain ⟨recorder, answered⟩ := s.respond_of_visit visited
    refine ⟨_, recorder, answered, ?_, ?_, ?_⟩
    · rw [status_finish, status]
    · rw [values_finish (by decide), mediaType]
    · rw [body_finish, content, ite_self]
  rcases lacks with ⟨figures, path, lacks⟩ | ⟨asked, route, found, lacks⟩
  · refine ⟨wrongMethodPage.withHeader "allow" "GET,HEAD", fun recorder => ?_, rfl, rfl, rfl⟩
    have others : ¬ (c.request.method = "GET" ∨ c.request.method = "HEAD") := by simpa using lacks
    simp only [visit, figures, path, beq_self_eq_true, Bool.and_self, if_true, metricsPage,
      if_neg others]
  · have noFigures : (c.request.target.path == metricsPath) = false := by
      rw [beq_eq_false_iff_ne]
      intro path
      have nowhere : Route.find? metricsPath = none := by decide +kernel
      rw [path, nowhere] at found
      cases found
    have visited (recorder : Metrics.Recorder) : s.visit c ⟨st.directory, recorder⟩
        = some
            ⟨(s.dress c (wrongMethodPage.withHeaders c.limitHere.headers)).withHeader "allow"
              route.allowed, st.directory, [], []⟩ := by
      unfold Call.Passes at passes
      simp only [visit, noFigures, Bool.and_false, Bool.false_eq_true, if_false, routeVisit, found,
        if_neg asked, lacks, Limit.around, passes]
      rfl
    refine ⟨_, visited, ?_, ?_, ?_⟩
    · rw [Response.status_withHeader, status_dress, Response.status_withHeaders]
      rfl
    · rw [Response.values_withHeader_of_ne (by decide), values_dress_contentType,
        Limit.values_withHeaders (by decide)]
      rfl
    · rw [Response.body_withHeader, body_dress, Response.body_withHeaders]
      rfl

/-- An error of the limiter is not told either: its page is plain text of no media type. -/
theorem respond_of_limit {page : LimitPage} (turned : c.limitHere.page? = some page)
    (st : State) :
    ∃ response recorder, s.respond c st = some (response, [], ⟨st.directory, recorder⟩)
      ∧ response.status = page.status ∧ response.values "content-type" = []
      ∧ response.body = if c.request.method = "HEAD" then .empty else .plain page.text := by
  obtain ⟨r, recorder, answered, told⟩ := s.respond_of_turnedAway turned st
  have status : r.status = page.status := by
    rw [told.status, status_dress, Response.status_withHeaders]
    rfl
  have content : r.body = .plain page.text := by
    rw [told.body, body_dress, Response.body_withHeaders]
    rfl
  have mediaType : r.values "content-type" = [] := by
    rw [told.values (by decide), values_dress_contentType, Limit.values_withHeaders (by decide)]
    rfl
  refine ⟨_, recorder, answered, ?_, ?_, ?_⟩
  · rw [status_finish, status]
  · rw [values_finish (by decide), mediaType]
  · rw [body_finish, content]

/-- Whatever is asked of the service, an error is told in its form, unless only the head of a page
is asked for or whether the service is ready. Only two kinds of errors are not told: the response to
a method that the path does not have is without content, and where the limiter turns the caller away
its page is plain text of no declared media type. -/
theorem errors_told_but_for_methods (c : Call) (st : State) :
    (∀ response statements st', s.respond c st = some (response, statements, st') →
        400 ≤ response.status → c.request.method ≠ "HEAD" → c.request.target.path ≠ readyPath →
        ¬ s.LacksMethod c.request → c.Passes → ∃ words, response.TellsError words)
      ∧ (s.LacksMethod c.request → c.Passes →
        ∃ response recorder, s.respond c st = some (response, [], ⟨st.directory, recorder⟩)
          ∧ response.status = 405 ∧ response.values "content-type" = []
          ∧ response.body = .empty)
      ∧ ∀ page, c.limitHere.page? = some page →
        ∃ response recorder, s.respond c st = some (response, [], ⟨st.directory, recorder⟩)
          ∧ response.status = page.status ∧ response.values "content-type" = []
          ∧ response.body = (if c.request.method = "HEAD" then .empty else .plain page.text)
          ∧ ∀ words, ¬ response.TellsError words := by
  refine ⟨?_, fun lacks passes => s.respond_of_lacksMethod lacks passes st, ?_⟩
  · intro response statements st' answered failed whole other has passes
    exact s.tellsError_of_respond answered failed whole other has passes
  · intro page turned
    obtain ⟨response, recorder, answered, status, mediaType, content⟩ :=
      s.respond_of_limit turned st
    exact ⟨response, recorder, answered, status, mediaType, content,
      fun _ => Response.not_tellsError_of_undeclared mediaType⟩

/-- The page for a learner cannot be deleted. -/
theorem lacksMethod_delete_me : s.LacksMethod (plainCall "DELETE" "/me").request :=
  .inr ⟨by decide, [("GET", .learner .me)], by decide +kernel, by decide +kernel⟩

/-- A sign-in that comes after too many others. -/
def hastySignIn : Call :=
  { plainCall "POST" "/auth/admin/login" with
    limit :=
      ⟨[("x-ratelimit-after", "1"), ("retry-after", "1")],
        some ⟨429, "Too Many Requests! Wait for 1s", by decide⟩, by decide⟩ }

/-- Nobody who has no token sees a page for learners, and is told so. To delete the page is another
method. Whoever signs in too often is turned away. -/
theorem errors_told_but_for_methods_sample :
    ∃ service d, (hallSettings "user" "admin").launch .epoch true = .ok (service, d)
      ∧ (∃ response statements st',
          service.respond (plainCall "GET" "/me") ⟨d, .empty⟩ = some (response, statements, st')
            ∧ 400 ≤ response.status ∧ ∃ words, response.TellsError words)
      ∧ service.LacksMethod (plainCall "DELETE" "/me").request
      ∧ (∃ response recorder,
          service.respond (plainCall "DELETE" "/me") ⟨d, .empty⟩
              = some (response, [], ⟨d, recorder⟩)
            ∧ response.status = 405 ∧ response.body = .empty)
      ∧ ∃ response recorder,
          service.respond hastySignIn ⟨d, .empty⟩ = some (response, [], ⟨d, recorder⟩)
            ∧ response.status = 429 ∧ response.body = .plain "Too Many Requests! Wait for 1s"
            ∧ ∀ words, ¬ response.TellsError words := by
  obtain ⟨⟨service, d⟩, launched⟩ :
    ∃ x, (hallSettings "user" "admin").launch .epoch true = .ok x := ⟨_, rfl⟩
  have lacks := service.lacksMethod_delete_me
  refine ⟨service, d, launched, ?told, lacks, ?untold, ?turnedAway⟩
  case told =>
    have leads : service.destination? (plainCall "GET" "/me").request = some (.learner .me) :=
      service.destination?_of_route rfl rfl (by decide +kernel) (by decide) (by decide +kernel)
    have other : Endpoint.learner .me ≠ .adminSignIn := fun same => by cases same
    have unnamed : (service.answer (.learner .me) (plainCall "GET" "/me") d).response?
        = some ApiError.missingToken.response := Outcome.response?_of_refused rfl
    obtain ⟨recorder, answered⟩ := service.respond_of_destination ⟨d, .empty⟩ leads other
    rw [unnamed, Option.map_some] at answered
    have status : 400 ≤ (finish (plainCall "GET" "/me")
        (service.dress (plainCall "GET" "/me") ApiError.missingToken.response)).status := by
      rw [status_finish, status_dress]
      decide
    exact ⟨_, _, _, answered, status,
      (service.errors_told_but_for_methods _ _).1 _ _ _ answered status (by decide)
        (by decide +kernel) (service.not_lacksMethod_of_destination leads)
        (service.passes_of_destination leads other)⟩
  case untold =>
    obtain ⟨response, recorder, answered, status, -, content⟩ :=
      (service.errors_told_but_for_methods (plainCall "DELETE" "/me") ⟨d, .empty⟩).2.1 lacks rfl
    exact ⟨response, recorder, answered, status, content⟩
  case turnedAway =>
    have here : hastySignIn.limitHere = hastySignIn.limit := if_pos (by decide)
    obtain ⟨response, recorder, answered, status, -, content, untold⟩ :=
      (service.errors_told_but_for_methods hastySignIn ⟨d, .empty⟩).2.2 _
        (congrArg Limit.page? here)
    exact ⟨response, recorder, answered, status, content, untold⟩

/-- A learner who asks to delete the page gets an error, and the error is not told. -/
theorem wrong_method_untold :
    ∃ service d, (hallSettings "user" "admin").launch .epoch true = .ok (service, d)
      ∧ ∃ response statements st',
          service.respond (plainCall "DELETE" "/me") ⟨d, .empty⟩ = some (response, statements, st')
            ∧ response.status = 405 ∧ response.values "content-type" = []
            ∧ ∀ words, ¬ response.TellsError words := by
  obtain ⟨⟨service, d⟩, launched⟩ :
    ∃ x, (hallSettings "user" "admin").launch .epoch true = .ok x := ⟨_, rfl⟩
  obtain ⟨response, recorder, answered, status, mediaType, content⟩ :=
    service.respond_of_lacksMethod service.lacksMethod_delete_me rfl ⟨d, .empty⟩
  exact ⟨service, d, launched, response, _, _, answered, status, mediaType,
    fun _ => Response.not_tellsError_of_empty content⟩

end Service

end StudyHall
