import StudyHall.Metrics.Recorder
import StudyHall.Service.Answer

/-!
# Responses of the service

From a request to the response that leaves the house. Around the endpoints lie, from the inside
out, the limiter before the sign-in of operators, the security headers, the rules for calls from
other origins, the figures about requests, and the identifier of the request.

* A preflight request, that is any `OPTIONS` request, is answered by the rules for other origins
  alone and does not get the security headers.
* The page with the figures lies outside both.
* Every response carries the identifier of its request.

A time beyond the representable years ends the service: then there is no response.
-/

namespace StudyHall

/-! ## Security headers -/

/-- The headers that every page carries. -/
def securityHeaders (e : Environment) : List (String × String) :=
  [("x-content-type-options", "nosniff"), ("x-frame-options", "DENY")]
    ++ match e with
      | .production => [("strict-transport-security", "max-age=31536000; includeSubDomains")]
      | .development => []

/-! ## Calls from other origins -/

/-- What a response depends on beside the address. -/
def varyHeader : String × String :=
  ("vary", "origin, access-control-request-method, access-control-request-headers")

/-- The leave for the origin of a request, if it is listed. -/
def originHeader (origins : List String) (r : Request) : List (String × String) :=
  match r.header? "origin" with
  | none => []
  | some origin =>
      if origins.contains origin then [("access-control-allow-origin", origin)] else []

/-- What every response under the rules for other origins carries. -/
def crossOriginHeaders (origins : List String) (r : Request) : List (String × String) :=
  varyHeader :: originHeader origins r

/-- What a preflight request is told. -/
def preflightHeaders : List (String × String) :=
  [ ("access-control-allow-methods", "GET,POST,PATCH,DELETE,OPTIONS"),
    ("access-control-allow-headers", "content-type,accept,authorization") ]

/-! ## The identifier of a request -/

/-- The header with the identifier of a request. -/
def requestIdName : String := "x-request-id"

/-- The identifier of a request: the one it brings, if that is plain text and not empty, or else
the one that is drawn for it. -/
def Call.identifier (c : Call) : String :=
  match (c.request.headerText? requestIdName).filter fun v => !v.isEmpty with
  | some v => v
  | none => c.requestId.toText

/-- A response with the identifier of its request, where that can stand in a header. -/
def Call.mark (c : Call) (r : Response) : Response :=
  if c.identifier.toList.all isHeaderChar then r.withHeader requestIdName c.identifier else r

/-- An identifier can always stand in a header: one that is brought was read from there, and one
that is drawn has digits and hyphens. -/
theorem Call.isHeader_identifier (c : Call) : c.identifier.toList.all isHeaderChar = true := by
  refine List.all_eq_true.mpr fun ch mem => isHeaderChar_of_isHeaderText ?_
  unfold identifier at mem
  split at mem
  · next v brought =>
      obtain ⟨text, -⟩ := Option.filter_eq_some_iff.mp brought
      obtain ⟨-, plain⟩ := Option.filter_eq_some_iff.mp text
      exact List.all_eq_true.mp plain ch mem
  · unfold Uuid.toText at mem
    rw [String.toList_ofList] at mem
    exact Uuid.of_mem_toChars (P := fun ch => isHeaderText ch = true) (by decide) (by decide) mem

/-- So every response is marked. -/
theorem Call.mark_eq (c : Call) (r : Response) :
    c.mark r = r.withHeader requestIdName c.identifier :=
  if_pos c.isHeader_identifier

/-! ## The state of the service -/

/-- What changes while the service runs. -/
structure State where
  directory : Directory
  recorder : Metrics.Recorder

/-- A response with its traces. -/
structure Visit where
  response : Response
  directory : Directory
  statements : List Statement := []
  events : List Metrics.Event := []

/-- A change of the response of a visit. -/
def Visit.mapResponse (f : Response → Response) (v : Visit) : Visit :=
  { v with response := f v.response }

/-! ## From inside out -/

/-- The path of the page with the figures. -/
def metricsPath : List Char := "/metrics".toList

/-- The method of asking what may be asked. -/
def preflightMethod : String := "OPTIONS"

/-- The response where no path leads. -/
def notFoundPage : Response :=
  Response.of 404 (.json (Json.ofFields [("error", .text "not found")]))

/-- The response to a method that a path does not have. -/
def wrongMethodPage : Response :=
  Response.of 405 .empty

/-! ### The limiter -/

/-- The path of the sign-in of operators. -/
def signInPath : List Char := "/auth/admin/login".toList

/-- What the limiter makes of a call. It stands before one path, whatever the method, and behind the
rules for other origins, where preflight requests have been answered. -/
def Call.limitHere (c : Call) : Limit :=
  if c.request.target.path = signInPath ∧ c.request.method ≠ preflightMethod then c.limit else .free

/-- Whether the limiter, if there is one, lets a call pass. -/
def Call.Passes (c : Call) : Prop :=
  c.limitHere.page? = none

/-- A visit past the limiter: the page of the limiter if the caller is turned away, and else what
comes of the visit, both with the headers of the limiter. -/
def Limit.around (l : Limit) (d : Directory) (v : Option Visit) : Option Visit :=
  match l.page? with
  | some page => some ⟨page.response.withHeaders l.headers, d, [], []⟩
  | none => v.map (Visit.mapResponse fun r => r.withHeaders l.headers)

namespace Service

variable (s : Service)

/-- The outcome of an endpoint as a visit, refusals included. -/
def endpointVisit (e : Endpoint) (c : Call) (d : Directory) : Option Visit :=
  let o := s.answer e c d
  match o.result with
  | .ok r => some ⟨r, o.directory, o.statements, o.events⟩
  | .error (.refused e) => some ⟨e.response, o.directory, o.statements, o.events⟩
  | .error _ => none

/-- What a response gets on its way out of the routes. -/
def dress (c : Call) (r : Response) : Response :=
  (r.withHeaders (securityHeaders s.environment)).withHeaders
    (crossOriginHeaders s.origins c.request)

/-- The response to a preflight request. -/
def preflight (c : Call) : Response :=
  (Response.of 200 .empty).withHeaders (crossOriginHeaders s.origins c.request ++ preflightHeaders)

/-- A visit to the routes. -/
def routeVisit (c : Call) (d : Directory) : Option Visit :=
  match Route.find? c.request.target.path with
  | none =>
      if c.request.method = preflightMethod then some ⟨s.preflight c, d, [], []⟩
      else some ⟨s.dress c notFoundPage, d, [], []⟩
  | some route =>
      if c.request.method = preflightMethod then
        some ⟨(s.preflight c).withHeader "allow" route.allowed, d, [], []⟩
      else
        match route.endpoint? c.request.method with
        | some e =>
            (c.limitHere.around d (s.endpointVisit e c d)).map (Visit.mapResponse (s.dress c))
        | none =>
            (c.limitHere.around d (some ⟨wrongMethodPage, d, [], []⟩)).map
              (Visit.mapResponse fun r => (s.dress c r).withHeader "allow" route.allowed)

/-- The response of the page with the figures. -/
def metricsPage (c : Call) (recorder : Metrics.Recorder) : Response :=
  if c.request.method = "GET" ∨ c.request.method = "HEAD" then
    Response.of 200 (.lines recorder.lines)
  else wrongMethodPage.withHeader "allow" "GET,HEAD"

/-- A visit to the service, with the figures as they stand. -/
def visit (c : Call) (st : State) : Option Visit :=
  if s.reportsMetrics && c.request.target.path == metricsPath then
    some ⟨metricsPage c st.recorder, st.directory, [], []⟩
  else s.routeVisit c st.directory

/-- The figures with events added, if they are collected. -/
def recording (recorder : Metrics.Recorder) (events : List Metrics.Event) : Metrics.Recorder :=
  if s.reportsMetrics then recorder.recordAll events else recorder

/-- A response as it is sent: with the identifier of the request, and without content if only the
head was asked for. -/
def finish (c : Call) (r : Response) : Response :=
  c.mark (if c.request.method = "HEAD" then r.withoutBody else r)

/-- The response to a request, the statements that were sent for it, and the state after it. -/
def respond (c : Call) (st : State) : Option (Response × List Statement × State) :=
  let label := PathLabel.ofPath c.request.target.path
  let started := s.recording st.recorder [.started c.request.method label]
  match s.visit c ⟨st.directory, started⟩ with
  | none => none
  | some v =>
      some
        (finish c v.response, v.statements,
          ⟨v.directory,
            s.recording started
              (v.events ++ [.finished c.request.method label v.response.status])⟩)

end Service

end StudyHall
