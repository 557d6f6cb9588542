import StudyHall.Service.Respond

/-!
# Two requests side by side

Around the endpoints a request is looked at through its method, its address, its first `Origin`
header and what the limiter makes of it, and the endpoints look at no more than two further headers,
the body, and what the request meets: the time, the database and the identifier for a new operator.
Two requests that agree in what is looked at are treated alike, and their responses differ in the
identifier of the request only.

The layers around the endpoints do not look at the directory either. So where two outcomes of every
endpoint differ by a change of the directory, the states after the two requests differ by it too.

## Main results

* `respond_congr` — the layers treat alike what the endpoints treat alike.
* `answer_congr` — the endpoints treat alike what reads alike.
-/

namespace StudyHall

/-! ## Around the endpoints -/

/-- A call that looks like another one from around the endpoints. -/
structure Call.LooksLike (c c' : Call) : Prop where
  method : c'.request.method = c.request.method
  target : c'.request.target = c.request.target
  origin : c'.request.header? "origin" = c.request.header? "origin"
  limit : c'.limit = c.limit

/-- An outcome with a change of the directory. -/
def Outcome.mapDirectory (f : Directory → Directory) (o : Outcome) : Outcome :=
  { o with directory := f o.directory }

/-- A visit with a change of the directory. -/
def Visit.mapDirectory (f : Directory → Directory) (v : Visit) : Visit :=
  { v with directory := f v.directory }

namespace Service

variable (s : Service) {c c' : Call}

theorem originHeader_congr (alike : c.LooksLike c') (origins : List String) :
    originHeader origins c'.request = originHeader origins c.request := by
  unfold originHeader
  rw [alike.origin]

theorem dress_congr (alike : c.LooksLike c') : s.dress c' = s.dress c := by
  funext r
  unfold dress crossOriginHeaders
  rw [originHeader_congr alike]

theorem preflight_congr (alike : c.LooksLike c') : s.preflight c' = s.preflight c := by
  unfold preflight crossOriginHeaders
  rw [originHeader_congr alike]

theorem limitHere_congr (alike : c.LooksLike c') : c'.limitHere = c.limitHere := by
  unfold Call.limitHere
  rw [alike.target, alike.method, alike.limit]

/-- The last layer puts the identifier on in the place of any other. -/
theorem finish_congr (alike : c.LooksLike c') (r : Response) :
    finish c' r = (finish c r).withHeader requestIdName c'.identifier := by
  unfold finish
  rw [Call.mark_eq, Call.mark_eq, Response.withHeader_withHeader, alike.method]

variable {f : Directory → Directory} {d d' : Directory}

theorem endpointVisit_congr {e : Endpoint}
    (same : s.answer e c' d' = (s.answer e c d).mapDirectory f) :
    s.endpointVisit e c' d' = (s.endpointVisit e c d).map (Visit.mapDirectory f) := by
  simp only [endpointVisit, same, Outcome.mapDirectory]
  split <;> rfl

/-- The limiter does not look at the directory. -/
theorem around_mapDirectory (l : Limit) (v : Option Visit) :
    l.around (f d) (v.map (Visit.mapDirectory f)) = (l.around d v).map (Visit.mapDirectory f) := by
  unfold Limit.around
  cases l.page? with
  | some page => rfl
  | none => cases v <;> rfl

theorem routeVisit_congr (alike : c.LooksLike c') (after : d' = f d)
    (same : ∀ e, s.answer e c' d' = (s.answer e c d).mapDirectory f) :
    s.routeVisit c' d' = (s.routeVisit c d).map (Visit.mapDirectory f) := by
  subst after
  unfold routeVisit
  rw [alike.method, alike.target, s.dress_congr alike, s.preflight_congr alike,
    limitHere_congr alike]
  cases Route.find? c.request.target.path with
  | none =>
      simp only
      split <;> rfl
  | some route =>
      simp only
      split
      · rfl
      · cases route.endpoint? c.request.method with
        | none =>
            have lacks : (some ⟨wrongMethodPage, f d, [], []⟩ : Option Visit)
                = (some ⟨wrongMethodPage, d, [], []⟩ : Option Visit).map (Visit.mapDirectory f) :=
              rfl
            simp only [lacks, around_mapDirectory]
            cases c.limitHere.around d (some ⟨wrongMethodPage, d, [], []⟩) <;> rfl
        | some e =>
            simp only [s.endpointVisit_congr (same e), around_mapDirectory]
            cases c.limitHere.around d (s.endpointVisit e c d) <;> rfl

/-- Where the outcomes of every endpoint differ by a change of the directory, so do the states after
the two requests, and the responses differ in the identifier of the request. -/
theorem respond_congr (alike : c.LooksLike c') (after : d' = f d)
    (same : ∀ e, s.answer e c' d' = (s.answer e c d).mapDirectory f)
    (recorder : Metrics.Recorder) :
    s.respond c' ⟨d', recorder⟩
      = (s.respond c ⟨d, recorder⟩).map fun a =>
          (a.1.withHeader requestIdName c'.identifier, a.2.1,
            ⟨f a.2.2.directory, a.2.2.recorder⟩) := by
  have visited (figures : Metrics.Recorder) : s.visit c' ⟨d', figures⟩
      = (s.visit c ⟨d, figures⟩).map (Visit.mapDirectory f) := by
    unfold visit
    rw [alike.target, s.routeVisit_congr alike after same]
    split
    · unfold metricsPage
      simp only [alike.method, Option.map_some, Visit.mapDirectory, after]
    · rfl
  simp only [respond, alike.method, alike.target, visited]
  cases s.visit c ⟨d, s.recording recorder [.started c.request.method
      (PathLabel.ofPath c.request.target.path)]⟩ with
  | none => rfl
  | some v => simp only [Option.map_some, Visit.mapDirectory, finish_congr alike]

end Service

/-! ## At the endpoints -/

/-- A call that reads like another one at the endpoints. -/
structure Call.ReadsLike (c c' : Call) : Prop extends c.LooksLike c' where
  body : c'.request.body = c.request.body
  authorization : c'.request.header? "authorization" = c.request.header? "authorization"
  contentType : c'.request.header? "content-type" = c.request.header? "content-type"
  now : c'.now = c.now
  database : c'.database = c.database
  operatorId : c'.operatorId = c.operatorId

/-- Who sent a request depends on one header and the time. -/
theorem TokenService.sender_congr {tokens : TokenService} {r r' : Request} {now : Instant}
    (same : r'.header? "authorization" = r.header? "authorization") :
    tokens.sender r' now = tokens.sender r now := by
  unfold sender Request.bearer? Request.headerText?
  rw [same]

/-- So does who is taken for an operator. -/
theorem TokenService.operator_congr {tokens : TokenService} {r r' : Request} {now : Instant}
    (same : r'.header? "authorization" = r.header? "authorization") :
    tokens.operator r' now = tokens.operator r now := by
  unfold operator
  rw [sender_congr same]

/-- What a request carries depends on its body and its media type. -/
theorem Schema.accept_congr {α : Type} {schema : Schema α} {r r' : Request}
    (contentType : r'.header? "content-type" = r.header? "content-type") (body : r'.body = r.body) :
    schema.accept r' = schema.accept r := by
  unfold accept declaresJson Request.headerText?
  rw [contentType, body]

namespace Service

variable (s : Service) {c c' : Call}

theorem operation_congr (alike : c.ReadsLike c') (a : DirectoryAction) :
    a.operation c'.request c'.operatorId = a.operation c.request c.operatorId := by
  have accepted {α : Type} (schema : Schema α) :
      schema.accept c'.request = schema.accept c.request :=
    Schema.accept_congr alike.contentType alike.body
  unfold DirectoryAction.operation
  simp only [accepted, alike.target, alike.operatorId]

/-- The outcome of an endpoint depends on what the endpoints read. -/
theorem answer_congr (alike : c.ReadsLike c') (e : Endpoint) (d : Directory) :
    s.answer e c' d = s.answer e c d := by
  have accepted {α : Type} (schema : Schema α) :
      schema.accept c'.request = schema.accept c.request :=
    Schema.accept_congr alike.contentType alike.body
  have sent (tokens : TokenService) (now : Instant) :
      tokens.sender c'.request now = tokens.sender c.request now :=
    TokenService.sender_congr alike.authorization
  have operated (tokens : TokenService) (now : Instant) :
      tokens.operator c'.request now = tokens.operator c.request now :=
    TokenService.operator_congr alike.authorization
  cases e with
  | health => rfl
  | ready => simp only [answer, ready, alike.database]
  | learner page =>
      simp only [answer, learnerPage, sent, alike.now, Session.outcome, alike.database,
        alike.target]
  | telegramSignIn =>
      simp only [answer, telegramSignIn, accepted, Session.outcome, alike.database, alike.now]
  | adminSignIn => simp only [answer, adminSignIn, accepted, alike.now]
  | directory a =>
      simp only [answer, directoryAction, operated, operation_congr alike, alike.now]
  | report report => simp only [answer, reportPage, operated, alike.target, alike.now]

end Service

end StudyHall
