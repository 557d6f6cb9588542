import StudyHall.Proofs.Service.Launch
import StudyHall.Proofs.Service.Layers

/-!
# Which origins are let in

A browser lets a page of another origin read a response only if the response names that origin. The
service names it for the origins of its settings and for no others, and it does so in every
response outside the page with the figures: a preflight request, an unknown path, a wrong method, a
refusal and a page all pass the same layer.

The layer looks at the first `Origin` header only and compares it as it was written. An entry of
the settings that cannot stand in a header is skipped; the star, which would let everybody in, keeps
the service from being launched.

## Main results

* `values_crossOriginHeaders` — what the layer says.
* `routeVisit_origin` — what every response of the routes says.
* `origins_let_in` — the same of a launched service, in terms of its settings.
-/

namespace StudyHall

/-- The header that names the origin which is let in. -/
def allowOriginName : String := "access-control-allow-origin"

namespace Service

variable (s : Service)

/-- Of the origins that are let in, the one that a request names. -/
theorem values_crossOriginHeaders {r : Response} {origins : List String} {q : Request}
    (unsaid : r.values allowOriginName = []) :
    (r.withHeaders (crossOriginHeaders origins q)).values allowOriginName
      = ((q.header? "origin").filter origins.contains).toList := by
  have dependence : (r.withHeader varyHeader.1 varyHeader.2).values allowOriginName = [] := by
    rw [Response.values_withHeader_of_ne (by decide), unsaid]
  unfold crossOriginHeaders originHeader
  rw [Response.withHeaders_cons]
  cases q.header? "origin" with
  | none =>
      rw [Response.withHeaders_nil, dependence]
      rfl
  | some origin =>
      by_cases listed : origins.contains origin = true
      · simp only [if_pos listed, Response.withHeaders_cons, Response.withHeaders_nil]
        rw [Option.filter_some, if_pos listed]
        exact Response.values_withHeader_self _ allowOriginName origin
      · simp only [if_neg listed, Response.withHeaders_nil]
        rw [Option.filter_some, if_neg listed, dependence]
        rfl

/-- The headers of the other layers do not name an origin. -/
theorem allowOriginName_notMem (e : Environment) :
    allowOriginName ∉ (securityHeaders e).map Prod.fst
      ∧ allowOriginName ∉ preflightHeaders.map Prod.fst := by
  cases e <;> decide

/-- Every response of the routes names the origin of the request if that is let in. -/
theorem routeVisit_origin {c : Call} {d : Directory} {v : Visit}
    (visited : s.routeVisit c d = some v) :
    v.response.values allowOriginName
      = ((c.request.header? "origin").filter s.origins.contains).toList := by
  obtain ⟨inner, answers, outer⟩ := s.routeVisit_response visited
  obtain ⟨noSecurity, noPreflight⟩ := allowOriginName_notMem s.environment
  have fresh (status : Nat) (body : Body) : (Response.of status body).values allowOriginName = [] :=
    Response.values_of_of_ne (by decide)
  have told : inner.values allowOriginName
      = ((c.request.header? "origin").filter s.origins.contains).toList := by
    cases answers with
    | preflight =>
        unfold preflight
        rw [Response.withHeaders_append, Response.values_withHeaders_of_notMem noPreflight,
          values_crossOriginHeaders (fresh _ _)]
    | dressed _ status body =>
        unfold dress
        rw [values_crossOriginHeaders]
        rw [Response.values_withHeaders_of_notMem noSecurity, Limit.values_withHeaders (by decide),
          fresh]
  rw [outer.values (by decide), told]

/-- Outside the page with the figures the origin is still named when the response is sent. -/
theorem respond_origin {c : Call} {st st' : State} {response : Response}
    {statements : List Statement} (answered : s.respond c st = some (response, statements, st'))
    (outside : ¬ (s.reportsMetrics = true ∧ c.request.target.path = metricsPath)) :
    response.values allowOriginName
      = ((c.request.header? "origin").filter s.origins.contains).toList := by
  obtain ⟨v, rfl, ⟨figures, -⟩ | ⟨-, visited⟩⟩ := s.respond_cases answered
  · exact absurd figures outside
  · rw [values_finish (by decide), s.routeVisit_origin visited]

end Service

/-! ## A launched service -/

/-- Whatever is asked of a launched service outside the page with the figures, the response names an
origin exactly if it is the first that the request names and the settings let it in, and then it
names that origin once. It never names the star. -/
theorem origins_let_in {s : Settings} {started : Instant} {reportsMetrics : Bool}
    {service : Service} {d : Directory}
    (launched : s.launch started reportsMetrics = .ok (service, d)) (c : Call) {st st' : State}
    {response : Response} {statements : List Statement}
    (answered : service.respond c st = some (response, statements, st'))
    (outside : ¬ (reportsMetrics = true ∧ c.request.target.path = metricsPath)) :
    response.values allowOriginName = ((c.request.header? "origin").filter s.letsIn).toList
      ∧ "*" ∉ response.values allowOriginName := by
  obtain ⟨listed, noStar⟩ := Settings.contains_of_launch launched
  rw [← (Settings.made_of_launch launched).figures] at outside
  have named : response.values allowOriginName
      = ((c.request.header? "origin").filter s.letsIn).toList := by
    rw [service.respond_origin answered outside, funext listed]
  refine ⟨named, ?_⟩
  rw [named, Option.mem_toList]
  intro star
  have letIn := (Option.filter_eq_some_iff.mp star).2
  rw [noStar] at letIn
  cases letIn

/-- Settings that list an origin that can stand in a header and one that cannot. -/
def openHall : Settings :=
  { hallSettings "user" "admin" with allowedOrigins := "https://a.test, https://b\x7f.test" }

/-- The preflight request of a page, for a path that leads nowhere. -/
def preflightFrom (origin : String) : Call :=
  ⟨⟨"OPTIONS", ⟨"/nowhere".toList, []⟩, [("origin", origin)], []⟩, .epoch, .unreachable, .ofNat 2,
    .ofNat 3, .free⟩

theorem origins_let_in_sample :
    ∃ service d, openHall.launch .epoch true = .ok (service, d)
      ∧ (∃ response statements st',
          service.respond (preflightFrom "https://a.test") ⟨d, .empty⟩
              = some (response, statements, st')
            ∧ response.values allowOriginName = ["https://a.test"])
      ∧ ∃ response statements st',
          service.respond (preflightFrom "https://b\x7f.test") ⟨d, .empty⟩
              = some (response, statements, st')
            ∧ response.values allowOriginName = [] := by
  obtain ⟨⟨service, d⟩, launched⟩ : ∃ x, openHall.launch .epoch true = .ok x := ⟨_, rfl⟩
  have outside : ¬ (true = true ∧ "/nowhere".toList = metricsPath) := by decide +kernel
  refine ⟨service, d, launched, ?listed, ?unusable⟩
  case listed =>
    obtain ⟨⟨response, statements, st'⟩, answered⟩ := Option.isSome_iff_exists.mp
      (service.isSome_respond_of_preflight (c := preflightFrom "https://a.test") rfl ⟨d, .empty⟩)
    obtain ⟨named, -⟩ := origins_let_in launched (preflightFrom "https://a.test") answered outside
    exact ⟨response, statements, st', answered, named.trans (by decide +kernel)⟩
  case unusable =>
    obtain ⟨⟨response, statements, st'⟩, answered⟩ := Option.isSome_iff_exists.mp
      (service.isSome_respond_of_preflight (c := preflightFrom "https://b\x7f.test") rfl
        ⟨d, .empty⟩)
    obtain ⟨named, -⟩ :=
      origins_let_in launched (preflightFrom "https://b\x7f.test") answered outside
    exact ⟨response, statements, st', answered, named.trans (by decide +kernel)⟩

end StudyHall
