import StudyHall.Proofs.Http.Headers
import StudyHall.Service.Respond

/-!
# From an endpoint to the response

Whatever an endpoint answers, it answers with a fresh response, which has the media type of its
content and no other header, and the same holds of the page of the limiter. All other headers are
put on outside, in layers: the limiter sets headers of its own, a response of the routes is dressed,
a preflight request is answered without them, and where a path has other methods these are told in
one more header. So a header can be followed from the inside out without looking into the endpoints.

## Main results

* `response?_eq_some_iff` — the response that an outcome leads to.
* `answer_fresh` — the response of an endpoint.
* `Limit.around_eq_some_iff` — what comes of a visit past the limiter.
* `visits_of_routeVisit` — where a visit to the routes comes from.
* `routeVisit_response`, `respond_cases` — the response of the routes, and any other.
* `visit_of_respond`, `respond_of_visit` — what a visit leaves behind, and back.
* `body_dress`, `body_finish`, `values_finish` — what the layers leave as it is.
-/

namespace StudyHall

/-! ## Outcomes -/

namespace Outcome

variable {o : Outcome} {r : Response} {cause : ApiError}

/-- The response that an outcome leads to, a refusal in its own words; after a breakdown there is
none. -/
def response? (o : Outcome) : Option Response :=
  match o.result with
  | .ok r => some r
  | .error (.refused cause) => some cause.response
  | .error _ => none

theorem response?_of_ok (result : o.result = .ok r) : o.response? = some r := by
  unfold response?
  rw [result]

theorem response?_of_refused (result : o.result = .error (.refused cause)) :
    o.response? = some cause.response := by
  unfold response?
  rw [result]

theorem response?_eq_some_iff :
    o.response? = some r ↔
      o.result = .ok r ∨ ∃ cause, o.result = .error (.refused cause) ∧ r = cause.response := by
  unfold response?
  cases o.result with
  | ok own => simp
  | error fault => cases fault <;> simp [eq_comm]

end Outcome

/-! ## The limiter -/

namespace Limit

variable {l : Limit} {d : Directory} {v : Option Visit}

/-- Past the limiter comes its page, with nothing done, or what comes of the visit. -/
theorem around_eq_some_iff {after : Visit} :
    l.around d v = some after ↔
      (∃ page, l.page? = some page ∧ after = ⟨page.response.withHeaders l.headers, d, [], []⟩)
        ∨ l.page? = none
          ∧ ∃ inner, v = some inner
            ∧ after = inner.mapResponse fun r => r.withHeaders l.headers := by
  unfold around
  cases l.page? with
  | some page => simp [eq_comm]
  | none =>
      rw [Option.map_eq_some_iff]
      simp [eq_comm]

/-- The limiter sets headers of its own only. -/
theorem values_withHeaders {r : Response} {name : String} (other : name ∉ limitHeaderNames) :
    (r.withHeaders l.headers).values name = r.values name := by
  refine Response.values_withHeaders_of_notMem fun set => ?_
  obtain ⟨h, mem, rfl⟩ := List.mem_map.mp set
  exact other (l.own h mem)

end Limit

namespace Service

variable (s : Service)

/-! ## Endpoints -/

/-- The response of a session that was presented on a page of its own. -/
theorem page_of_map {ε α : Type} {x : Except ε α} {f : α → Json} {r : Response}
    (presented : (x.map fun a => Response.page (f a)) = .ok r) :
    ∃ body, r = Response.of 200 body := by
  cases x with
  | error e => cases presented
  | ok a =>
      cases presented
      exact ⟨.json (f a), rfl⟩

/-- Every endpoint that succeeds answers with a fresh response, and with a status below 400, but for
the endpoint that says whether the service is ready. -/
theorem answer_fresh {e : Endpoint} {c : Call} {d : Directory} {r : Response}
    (answered : (s.answer e c d).result = .ok r) :
    ∃ status body, r = Response.of status body ∧ (status < 400 ∨ e = .ready) := by
  have page (own : ∃ body, r = Response.of 200 body) :
      ∃ status body, r = Response.of status body ∧ (status < 400 ∨ e = .ready) := by
    obtain ⟨body, rfl⟩ := own
    exact ⟨200, body, rfl, .inl (by decide)⟩
  cases e with
  | health =>
      cases answered
      exact ⟨_, _, rfl, .inl (by decide)⟩
  | ready =>
      cases answered
      exact ⟨_, _, rfl, .inr rfl⟩
  | learner p =>
      simp only [answer, learnerPage] at answered
      split at answered
      · cases answered
      · exact page (page_of_map (f := id) answered)
  | telegramSignIn =>
      simp only [answer, telegramSignIn] at answered
      split at answered
      · cases answered
      · exact page (page_of_map answered)
  | adminSignIn =>
      simp only [answer, adminSignIn] at answered
      split at answered
      · cases answered
      · exact page (page_of_map answered)
  | directory a =>
      have success : a.successStatus < 400 := by
        cases a <;> simp [DirectoryAction.successStatus]
      simp only [answer, directoryAction] at answered
      split at answered
      · cases answered
      · split at answered
        · cases answered
        · unfold DirectoryAction.response at answered
          split at answered
          · cases answered
          · cases answered
            exact ⟨_, _, rfl, .inl success⟩
  | report report =>
      simp only [answer, reportPage] at answered
      split at answered
      · cases answered
      · exact page (page_of_map (f := id) answered)

/-- A page for learners is a session for whoever sent the request. -/
theorem answer_of_sender {page : LearnerPage} {c : Call} {d : Directory} {subject : TokenSubject}
    (sent : s.learnerTokens.sender c.request c.now = .ok subject) :
    s.answer (.learner page) c d
      = (page.view subject.userId c.request.target.query).outcome c d Response.page := by
  simp only [answer, learnerPage, sent]

/-- A visit to an endpoint is the response of its outcome with the traces of that. -/
theorem endpointVisit_eq (e : Endpoint) (c : Call) (d : Directory) :
    s.endpointVisit e c d
      = (s.answer e c d).response?.map fun r =>
          ⟨r, (s.answer e c d).directory, (s.answer e c d).statements,
            (s.answer e c d).events⟩ := by
  unfold endpointVisit Outcome.response?
  generalize s.answer e c d = o
  rcases o with ⟨fault | r, after, statements, events⟩
  · cases fault <;> rfl
  · rfl

/-- So the response of a visit is fresh, also where it is a refusal. -/
theorem endpointVisit_fresh {e : Endpoint} {c : Call} {d : Directory} {v : Visit}
    (visited : s.endpointVisit e c d = some v) :
    ∃ status body, v.response = Response.of status body := by
  rw [endpointVisit_eq] at visited
  obtain ⟨r, given, rfl⟩ := Option.map_eq_some_iff.mp visited
  obtain answered | ⟨cause, -, rfl⟩ := Outcome.response?_eq_some_iff.mp given
  · obtain ⟨status, body, fresh, -⟩ := s.answer_fresh answered
    exact ⟨status, body, fresh⟩
  · exact ⟨cause.status, _, rfl⟩

/-! ## Routes -/

/-- Whether a response is another one, or that one with the header that tells the methods of a
path. -/
def WithMethods (inner r : Response) : Prop :=
  r = inner ∨ ∃ methods, r = inner.withHeader "allow" methods

section WithMethods

variable {inner r : Response}

theorem WithMethods.status (told : WithMethods inner r) : r.status = inner.status := by
  obtain rfl | ⟨methods, rfl⟩ := told
  · rfl
  · exact inner.status_withHeader "allow" methods

theorem WithMethods.body (told : WithMethods inner r) : r.body = inner.body := by
  obtain rfl | ⟨methods, rfl⟩ := told
  · rfl
  · exact inner.body_withHeader "allow" methods

theorem WithMethods.values (told : WithMethods inner r) {name : String} (other : name ≠ "allow") :
    r.values name = inner.values name := by
  obtain rfl | ⟨methods, rfl⟩ := told
  · rfl
  · exact Response.values_withHeader_of_ne other

end WithMethods

/-- Where a visit to the routes comes from. Only at an endpoint is anything done. -/
inductive Visits (c : Call) (d : Directory) : Visit → Prop
  /-- A preflight request is answered without looking for an endpoint. -/
  | preflight {r : Response} (asked : c.request.method = preflightMethod)
      (told : WithMethods (s.preflight c) r) : Visits c d ⟨r, d, [], []⟩
  | nowhere (asked : c.request.method ≠ preflightMethod) :
      Visits c d ⟨s.dress c notFoundPage, d, [], []⟩
  /-- The limiter turns the caller away, whether or not the path has the method. -/
  | turnedAway {r : Response} {page : LimitPage} (asked : c.request.method ≠ preflightMethod)
      (turned : c.limitHere.page? = some page)
      (told : WithMethods (s.dress c (page.response.withHeaders c.limitHere.headers)) r) :
      Visits c d ⟨r, d, [], []⟩
  | wrongMethod {route : Route} (asked : c.request.method ≠ preflightMethod)
      (found : Route.find? c.request.target.path = some route)
      (lacks : route.endpoint? c.request.method = none) :
      Visits c d
        ⟨(s.dress c (wrongMethodPage.withHeaders c.limitHere.headers)).withHeader "allow"
          route.allowed, d, [], []⟩
  | endpoint {route : Route} {e : Endpoint} {own : Visit}
      (asked : c.request.method ≠ preflightMethod)
      (found : Route.find? c.request.target.path = some route)
      (leads : route.endpoint? c.request.method = some e)
      (reached : s.endpointVisit e c d = some own) :
      Visits c d (own.mapResponse fun r => s.dress c (r.withHeaders c.limitHere.headers))

theorem visits_of_routeVisit {c : Call} {d : Directory} {v : Visit}
    (visited : s.routeVisit c d = some v) : s.Visits c d v := by
  unfold routeVisit at visited
  split at visited
  · split at visited
    · next asked =>
        cases visited
        exact .preflight asked (.inl rfl)
    · next asked =>
        cases visited
        exact .nowhere asked
  · next route found =>
      split at visited
      · next asked =>
          cases visited
          exact .preflight asked (.inr ⟨route.allowed, rfl⟩)
      · next asked =>
          split at visited
          · next e leads =>
              obtain ⟨inner, past, rfl⟩ := Option.map_eq_some_iff.mp visited
              obtain ⟨page, turned, rfl⟩ | ⟨-, own, reached, rfl⟩ :=
                Limit.around_eq_some_iff.mp past
              · exact .turnedAway asked turned (.inl rfl)
              · exact .endpoint asked found leads reached
          · next lacks =>
              obtain ⟨inner, past, rfl⟩ := Option.map_eq_some_iff.mp visited
              obtain ⟨page, turned, rfl⟩ | ⟨-, own, reached, rfl⟩ :=
                Limit.around_eq_some_iff.mp past
              · exact .turnedAway asked turned (.inr ⟨route.allowed, rfl⟩)
              · cases reached
                exact .wrongMethod asked found lacks

/-- What the routes answer, but for the header that tells the methods of a path. -/
inductive Answers (c : Call) : Response → Prop
  /-- A preflight request is answered without looking for an endpoint. -/
  | preflight (asked : c.request.method = preflightMethod) : Answers c (s.preflight c)
  /-- All other responses are fresh ones that were dressed, perhaps with headers of the limiter. -/
  | dressed (asked : c.request.method ≠ preflightMethod) (status : Nat) (body : Body) (l : Limit) :
      Answers c (s.dress c ((Response.of status body).withHeaders l.headers))

/-- The response of the routes, with or without the header that tells the methods of the path. -/
theorem routeVisit_response {c : Call} {d : Directory} {v : Visit}
    (visited : s.routeVisit c d = some v) :
    ∃ inner, s.Answers c inner ∧ WithMethods inner v.response := by
  cases s.visits_of_routeVisit visited with
  | preflight asked told => exact ⟨_, .preflight asked, told⟩
  | nowhere asked => exact ⟨_, .dressed asked _ _ .free, .inl rfl⟩
  | turnedAway asked turned told => exact ⟨_, .dressed asked _ _ c.limitHere, told⟩
  | wrongMethod asked found lacks =>
      exact ⟨_, .dressed asked _ _ c.limitHere, .inr ⟨_, rfl⟩⟩
  | endpoint asked found leads reached =>
      obtain ⟨status, body, fresh⟩ := s.endpointVisit_fresh reached
      refine ⟨_, .dressed asked status body c.limitHere, .inl ?_⟩
      simp only [Visit.mapResponse, fresh]

/-- A preflight request is always answered. -/
theorem isSome_respond_of_preflight {c : Call} (asked : c.request.method = preflightMethod)
    (st : State) : (s.respond c st).isSome = true := by
  unfold respond visit routeVisit
  simp only [asked, if_true]
  split
  · next unanswered =>
      split at unanswered
      · cases unanswered
      · split at unanswered <;> cases unanswered
  · rfl

/-- The recorder has counted a request by the time it is visited. A visit that does not depend on
that count shows in the response. -/
theorem respond_of_visit {c : Call} {st : State} {v : Visit}
    (visited : ∀ recorder, s.visit c ⟨st.directory, recorder⟩ = some v) :
    ∃ recorder, s.respond c st
      = some (finish c v.response, v.statements, ⟨v.directory, recorder⟩) := by
  simp only [respond, visited]
  exact ⟨_, rfl⟩

/-- Every response was visited for, after the start of the request was counted. The visit shows in
the response and in the directory, and the end of the request is counted after it. -/
theorem visit_of_respond {c : Call} {st st' : State} {response : Response}
    {statements : List Statement} (answered : s.respond c st = some (response, statements, st')) :
    let label := PathLabel.ofPath c.request.target.path
    let started := s.recording st.recorder [.started c.request.method label]
    ∃ v, s.visit c ⟨st.directory, started⟩ = some v ∧ response = finish c v.response
      ∧ statements = v.statements
      ∧ st' = ⟨v.directory, s.recording started
          (v.events ++ [.finished c.request.method label v.response.status])⟩ := by
  simp only [respond] at answered
  split at answered
  · cases answered
  · next v visited =>
      cases answered
      exact ⟨v, visited, rfl, rfl, rfl⟩

/-- Where a response comes from: it is the page with the figures, or it is one of the routes. -/
theorem respond_cases {c : Call} {st st' : State} {response : Response}
    {statements : List Statement} (answered : s.respond c st = some (response, statements, st')) :
    ∃ v : Visit, response = finish c v.response
      ∧ ((s.reportsMetrics = true ∧ c.request.target.path = metricsPath)
          ∧ (∃ recorder, v.response = metricsPage c recorder)
        ∨ ¬ (s.reportsMetrics = true ∧ c.request.target.path = metricsPath)
          ∧ s.routeVisit c st.directory = some v) := by
  obtain ⟨v, visited, told, -, -⟩ := s.visit_of_respond answered
  refine ⟨v, told, ?_⟩
  unfold visit at visited
  split at visited
  · next figures =>
      cases visited
      exact .inl ⟨by simpa using figures, _, rfl⟩
  · next noFigures => exact .inr ⟨by simpa using noFigures, visited⟩

/-! ## What the layers leave as it is -/

/-- The rules for other origins set two headers at most. -/
theorem values_crossOriginHeaders_of_notMem {r : Response} {origins : List String} {q : Request}
    {name : String} (other : name ∉ ["vary", "access-control-allow-origin"]) :
    (r.withHeaders (crossOriginHeaders origins q)).values name = r.values name := by
  refine Response.values_withHeaders_of_notMem fun set => other ?_
  unfold crossOriginHeaders originHeader at set
  split at set
  · simp_all [varyHeader]
  · split at set <;> simp_all [varyHeader]

/-- The media type of a response is not touched on its way out of the routes. -/
theorem values_dress_contentType (c : Call) (r : Response) :
    (s.dress c r).values "content-type" = r.values "content-type" := by
  unfold dress
  rw [values_crossOriginHeaders_of_notMem (by decide)]
  exact Response.values_withHeaders_of_notMem (by cases s.environment <;> decide)

theorem status_dress (c : Call) (r : Response) : (s.dress c r).status = r.status := by
  simp [dress]

theorem body_dress (c : Call) (r : Response) : (s.dress c r).body = r.body := by
  simp [dress]

theorem status_finish (c : Call) (r : Response) : (finish c r).status = r.status := by
  unfold finish
  rw [Call.mark_eq]
  split <;> simp

theorem body_finish (c : Call) (r : Response) :
    (finish c r).body = if c.request.method = "HEAD" then .empty else r.body := by
  unfold finish
  rw [Call.mark_eq]
  split <;> rfl

/-- The identifier of a request is the only header that is put on at last. -/
theorem values_finish {c : Call} {r : Response} {name : String} (different : name ≠ requestIdName) :
    (finish c r).values name = r.values name := by
  unfold finish
  rw [Call.mark_eq, Response.values_withHeader_of_ne different]
  split
  · exact Response.values_withoutBody r name
  · rfl

end Service

end StudyHall
