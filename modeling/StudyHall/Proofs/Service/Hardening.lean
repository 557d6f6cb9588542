import StudyHall.Proofs.Service.DirectoryChange
import StudyHall.Proofs.Service.Launch
import StudyHall.Proofs.Service.Layers

/-!
# Which responses are hardened

A browser is told by two headers not to guess media types and not to show a page in a frame, and in
production by a third one to come back by a secure connection only. The layer that says so lies
around the routes, so a page, a refusal, an unknown path and a wrong method all pass it. It lies
within the rules for other origins, which answer a preflight request by themselves, and it does not
reach the page with the figures, which is put beside the routes afterwards. The responses to these
two carry none of the three headers.

## Main results

* `hardened_dress` — what passes the layer.
* `bare_preflight`, `bare_metricsPage` — what does not pass it.
* `hardened_within_the_layer` — both for a launched service, in terms of its settings.
-/

namespace StudyHall

/-! ## The three headers -/

/-- The names of the headers that harden a response. -/
def hardeningNames : List String :=
  ["x-content-type-options", "x-frame-options", "strict-transport-security"]

/-- What a hardened response says in an environment. -/
structure Response.Hardened (e : Environment) (r : Response) : Prop where
  noGuessing : r.values "x-content-type-options" = ["nosniff"]
  noFrames : r.values "x-frame-options" = ["DENY"]
  secureOnly : r.values "strict-transport-security"
    = if e = .production then ["max-age=31536000; includeSubDomains"] else []

/-- Whether a response carries none of the headers that harden one. -/
def Response.Bare (r : Response) : Prop :=
  ∀ name ∈ hardeningNames, r.values name = []

namespace Response

variable {r r' : Response} {e : Environment}

/-- Whether a response is hardened shows in the three headers alone. -/
theorem Hardened.congr (same : ∀ name ∈ hardeningNames, r'.values name = r.values name)
    (hardened : r.Hardened e) : r'.Hardened e where
  noGuessing := (same _ (by decide)).trans hardened.noGuessing
  noFrames := (same _ (by decide)).trans hardened.noFrames
  secureOnly := (same _ (by decide)).trans hardened.secureOnly

theorem Bare.congr (same : ∀ name ∈ hardeningNames, r'.values name = r.values name)
    (bare : r.Bare) : r'.Bare :=
  fun name mem => (same name mem).trans (bare name mem)

/-- A fresh response is bare. -/
theorem bare_of (status : Nat) (body : Body) : (Response.of status body).Bare :=
  fun _ mem => values_of_of_ne (by rintro rfl; revert mem; decide)

/-- A bare response is hardened by the headers of the layer. -/
theorem hardened_withHeaders (bare : r.Bare) (e : Environment) :
    (r.withHeaders (securityHeaders e)).Hardened e := by
  -- A header keeps the one value it is set to, as no header of the layer is set twice.
  have distinct : ((securityHeaders e).map Prod.fst).Nodup := by cases e <;> decide
  refine ⟨?_, ?_, ?_⟩
  · exact values_withHeaders_of_mem (h := ("x-content-type-options", "nosniff")) distinct
      (by cases e <;> decide)
  · exact values_withHeaders_of_mem (h := ("x-frame-options", "DENY")) distinct
      (by cases e <;> decide)
  · cases e with
    | production =>
        exact values_withHeaders_of_mem
          (h := ("strict-transport-security", "max-age=31536000; includeSubDomains")) distinct
          (by decide)
    | development =>
        rw [values_withHeaders_of_notMem (by decide)]
        exact bare _ (by decide)

end Response

/-! ## Layers -/

/-- Whether a request is answered outside the layer: it is a preflight request, or it asks for the
page with the figures where there is one. -/
def Call.AnsweredOutside (c : Call) (reportsMetrics : Bool) : Prop :=
  c.request.method = "OPTIONS" ∨ reportsMetrics = true ∧ c.request.target.path = "/metrics".toList

namespace Service

variable (s : Service) {c : Call}

/-- The rules for other origins set no header that hardens a response. -/
theorem values_crossOriginHeaders_of_hardening (r : Response) (origins : List String)
    (q : Request) :
    ∀ name ∈ hardeningNames,
      (r.withHeaders (crossOriginHeaders origins q)).values name = r.values name := by
  intro name mem
  refine values_crossOriginHeaders_of_notMem ?_
  revert name
  decide

/-- The limiter sets no such header either. -/
theorem bare_limited (status : Nat) (body : Body) (l : Limit) :
    ((Response.of status body).withHeaders l.headers).Bare :=
  (Response.bare_of status body).congr fun name mem =>
    Limit.values_withHeaders (by revert name; decide)

/-- What is dressed on its way out of the routes is hardened. -/
theorem hardened_dress {r : Response} (bare : r.Bare) (c : Call) :
    (s.dress c r).Hardened s.environment :=
  (Response.hardened_withHeaders bare s.environment).congr
    (values_crossOriginHeaders_of_hardening _ s.origins c.request)

/-- The response to a preflight request is bare. -/
theorem bare_preflight (c : Call) : (s.preflight c).Bare := by
  intro name mem
  have others : name ∉ preflightHeaders.map Prod.fst := by
    revert name
    decide
  unfold preflight
  rw [Response.withHeaders_append, Response.values_withHeaders_of_notMem others,
    values_crossOriginHeaders_of_hardening _ _ _ name mem]
  exact Response.bare_of _ _ name mem

/-- The page with the figures is bare, and so is the response to another method for it. -/
theorem bare_metricsPage (c : Call) (recorder : Metrics.Recorder) :
    (metricsPage c recorder).Bare := by
  unfold metricsPage
  split
  · exact Response.bare_of _ _
  · exact (Response.bare_of 405 .empty).congr fun name mem =>
      Response.values_withHeader_of_ne (by rintro rfl; revert mem; decide)

/-- Of the responses of the routes, those to preflight requests are bare and all others are
hardened. -/
theorem routeVisit_hardening {d : Directory} {v : Visit} (visited : s.routeVisit c d = some v) :
    (c.request.method ≠ preflightMethod → v.response.Hardened s.environment)
      ∧ (c.request.method = preflightMethod → v.response.Bare) := by
  obtain ⟨inner, answers, outer⟩ := s.routeVisit_response visited
  have same : ∀ name ∈ hardeningNames, v.response.values name = inner.values name :=
    fun name mem => outer.values (by rintro rfl; revert mem; decide)
  cases answers with
  | preflight asked =>
      exact ⟨fun other => absurd asked other, fun _ => (s.bare_preflight c).congr same⟩
  | dressed asked status body l =>
      exact ⟨fun _ => (s.hardened_dress (bare_limited status body l) c).congr same,
        fun other => absurd other asked⟩

/-- Of the responses that are sent, those from outside the layer are bare and all others are
hardened. -/
theorem respond_hardening {st st' : State} {response : Response} {statements : List Statement}
    (answered : s.respond c st = some (response, statements, st')) :
    (¬ c.AnsweredOutside s.reportsMetrics → response.Hardened s.environment)
      ∧ (c.AnsweredOutside s.reportsMetrics → response.Bare) := by
  have last (r : Response) : ∀ name ∈ hardeningNames, (finish c r).values name = r.values name :=
    fun name mem => values_finish (by rintro rfl; revert mem; decide)
  obtain ⟨v, rfl, ⟨figures, recorder, page⟩ | ⟨noFigures, visited⟩⟩ := s.respond_cases answered
  · rw [page]
    refine ⟨fun within => absurd (.inr figures) within, fun _ => ?_⟩
    exact (bare_metricsPage c recorder).congr (last _)
  · obtain ⟨hardened, bare⟩ := s.routeVisit_hardening visited
    constructor
    · intro within
      exact (hardened fun asked => within (.inl asked)).congr (last _)
    · rintro (asked | figures)
      · exact (bare asked).congr (last _)
      · exact absurd figures noFigures

end Service

/-! ## A launched service -/

/-- Whatever is asked of a launched service, the response is hardened for the environment of its
settings, unless the request is a preflight request or asks for the page with the figures where
there is one. The responses to these two are bare. -/
theorem hardened_within_the_layer {s : Settings} {started : Instant} {reportsMetrics : Bool}
    {service : Service} {d : Directory}
    (launched : s.launch started reportsMetrics = .ok (service, d)) (c : Call) {st st' : State}
    {response : Response} {statements : List Statement}
    (answered : service.respond c st = some (response, statements, st')) :
    (¬ c.AnsweredOutside reportsMetrics → response.Hardened s.env)
      ∧ (c.AnsweredOutside reportsMetrics → response.Bare) := by
  have made := Settings.made_of_launch launched
  rw [← made.environment, ← made.figures]
  exact service.respond_hardening answered

/-- Settings for production. -/
def productionHall : Settings :=
  { hallSettings "user" "admin" with env := .production }

theorem hardened_within_the_layer_sample :
    ∃ service d, productionHall.launch .epoch true = .ok (service, d)
      ∧ (∃ response statements st',
          service.respond (plainCall "GET" "/health/ready") ⟨d, .empty⟩
              = some (response, statements, st')
            ∧ ¬ (plainCall "GET" "/health/ready").AnsweredOutside true
            ∧ response.Hardened .production)
      ∧ ∃ response statements st',
          service.respond (plainCall "OPTIONS" "/health/ready") ⟨d, .empty⟩
              = some (response, statements, st')
            ∧ (plainCall "OPTIONS" "/health/ready").AnsweredOutside true
            ∧ response.Bare := by
  obtain ⟨⟨service, d⟩, launched⟩ : ∃ x, productionHall.launch .epoch true = .ok x := ⟨_, rfl⟩
  refine ⟨service, d, launched, ?within, ?outside⟩
  case within =>
    have leads : service.destination? (plainCall "GET" "/health/ready").request = some .ready :=
      service.destination?_of_route rfl rfl (by decide +kernel) (by decide) (by decide +kernel)
    have unready : (service.answer .ready (plainCall "GET" "/health/ready") d).response?
        = some (Response.of 503 .empty) := Outcome.response?_of_ok rfl
    obtain ⟨recorder, answered⟩ := service.respond_of_destination ⟨d, .empty⟩ leads
      (fun same => by cases same)
    rw [unready, Option.map_some] at answered
    have within : ¬ (plainCall "GET" "/health/ready").AnsweredOutside true := by
      unfold Call.AnsweredOutside
      decide +kernel
    exact ⟨_, _, _, answered, within, (hardened_within_the_layer launched _ answered).1 within⟩
  case outside =>
    obtain ⟨⟨response, statements, st'⟩, answered⟩ := Option.isSome_iff_exists.mp
      (service.isSome_respond_of_preflight (c := plainCall "OPTIONS" "/health/ready") rfl
        ⟨d, .empty⟩)
    exact ⟨_, _, _, answered, .inl rfl,
      (hardened_within_the_layer launched _ answered).2 (.inl rfl)⟩

/-- Settings are read for production, and yet the response to a preflight request says nothing about
media types, frames and secure connections. -/
theorem preflight_unhardened :
    ∃ s, Settings.read (("ENV", "production") :: hallVars "user" "admin") = .ok s
      ∧ s.env = .production
      ∧ ∃ service d, s.launch .epoch true = .ok (service, d)
        ∧ ∃ response statements st',
          service.respond (plainCall "OPTIONS" "/health") ⟨d, .empty⟩
              = some (response, statements, st')
            ∧ response.values "x-content-type-options" = []
            ∧ response.values "x-frame-options" = []
            ∧ response.values "strict-transport-security" = [] := by
  obtain ⟨⟨service, d⟩, launched⟩ : ∃ x, productionHall.launch .epoch true = .ok x := ⟨_, rfl⟩
  obtain ⟨⟨response, statements, st'⟩, answered⟩ := Option.isSome_iff_exists.mp
    (service.isSome_respond_of_preflight (c := plainCall "OPTIONS" "/health") rfl ⟨d, .empty⟩)
  have bare : response.Bare := (service.respond_hardening answered).2 (.inl rfl)
  exact ⟨productionHall, rfl, rfl, service, d, launched, response, statements, st', answered,
    bare _ (by decide), bare _ (by decide), bare _ (by decide)⟩

end StudyHall
