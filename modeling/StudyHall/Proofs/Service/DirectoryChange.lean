import StudyHall.Proofs.Service.Layers

/-!
# What a request can do to the directory

A request leads to at most one endpoint, and only the endpoints of the directory hand on a directory
other than the one they were given. Before they touch it they have checked who sent the request and
read the path and the body; what is left is one operation, and an operation that is refused hands
the directory back. So a change has a sender who may make it, a request that asks for it, and a
response that reports success.

## Main results

* `asksFor_of_operation` — an endpoint of the directory is reached by a request for its operation.
* `answer_directory_ne` — an endpoint that changes the directory has performed one operation for an
  operator.
* `destination?_of_asksFor` — a request for an operation leads to the endpoint that performs it.
* `directory_changes_authorised` — every change of the directory through a request.
-/

namespace StudyHall

open Text

/-! ## Requests for a change -/

/-- What stands before the identifier of one operator in a path, and the path of all of them. -/
def operatorsPath : List Char := "/admin/users".toList

/-- The identifier that a path names an operator by: a segment, with its escapes, after the path of
all operators. -/
def PathNames (path : List Char) (id : Uuid) : Prop :=
  ∃ segment, path = operatorsPath ++ '/' :: segment ∧ '/' ∉ segment
    ∧ (Percent.text? segment).bind Uuid.parse? = some id

/-- A request asks for an operation by its method, its path and its body, a new operator being given
the identifier `fresh`; the last argument is the status that reports the success of it. -/
inductive Request.AsksFor (r : Request) (fresh : Uuid) : Directory.Operation → Nat → Prop
  | create {new : NewOperator} (method : r.method = "POST")
      (path : r.target.path = operatorsPath) (body : createSchema.accept r = .ok new) :
      AsksFor r fresh (.create fresh new) 201
  | update {id : Uuid} {patch : OperatorPatch} (method : r.method = "PATCH")
      (path : PathNames r.target.path id) (body : updateSchema.accept r = .ok patch) :
      AsksFor r fresh (.update id patch) 200
  | delete {id : Uuid} (method : r.method = "DELETE") (path : PathNames r.target.path id) :
      AsksFor r fresh (.delete id) 204
  | setStatus {change : StatusChange} (method : r.method = "POST")
      (path : r.target.path = operatorsPath ++ "/bulk-status".toList)
      (body : statusSchema.accept r = .ok change) :
      AsksFor r fresh (.bulkStatus change.userIds change.status) 200
  | remove {removal : Removal} (method : r.method = "POST")
      (path : r.target.path = operatorsPath ++ "/bulk-delete".toList)
      (body : removalSchema.accept r = .ok removal) :
      AsksFor r fresh (.bulkDelete removal.userIds) 200

namespace Request.AsksFor

variable {r : Request} {fresh : Uuid} {op : Directory.Operation} {status : Nat}

theorem status_mem (asks : r.AsksFor fresh op status) : status ∈ [200, 201, 204] := by
  cases asks <;> decide

theorem method_not_mem (asks : r.AsksFor fresh op status) :
    r.method ∉ ["GET", "HEAD", "OPTIONS"] := by
  cases asks with
  | create method => rw [method]; decide
  | update method => rw [method]; decide
  | delete method => rw [method]; decide
  | setStatus method => rw [method]; decide
  | remove method => rw [method]; decide

end Request.AsksFor

/-! ## Routes -/

/-- Which methods and paths lead to an endpoint of the directory. -/
def DirectoryAction.IsAt (method : String) (path : List Char) : DirectoryAction → Prop
  | .list => (method = "GET" ∨ method = "HEAD") ∧ path = operatorsPath
  | .create => method = "POST" ∧ path = operatorsPath
  | .update segment => method = "PATCH" ∧ path = operatorsPath ++ '/' :: segment ∧ '/' ∉ segment
  | .delete segment => method = "DELETE" ∧ path = operatorsPath ++ '/' :: segment ∧ '/' ∉ segment
  | .setStatus => method = "POST" ∧ path = operatorsPath ++ "/bulk-status".toList
  | .remove => method = "POST" ∧ path = operatorsPath ++ "/bulk-delete".toList
  | .invite => method = "POST" ∧ path = operatorsPath ++ "/invite".toList

theorem mem_of_lookup {β : Type} {key : String} {value : β} {pairs : List (String × β)}
    (found : pairs.lookup key = some value) : (key, value) ∈ pairs := by
  obtain ⟨before, behind, rfl, -⟩ := List.lookup_eq_some_iff.mp found
  simp

theorem operatorPath_append (segment : List Char) :
    operatorPath ++ segment = operatorsPath ++ '/' :: segment := by
  have cut : operatorPath = operatorsPath ++ ['/'] := by decide +kernel
  rw [cut, List.append_assoc, List.singleton_append]

/-- The path of one operator, taken apart. -/
theorem path_of_operatorSegment {path segment : List Char}
    (found : operatorSegment? path = some segment) :
    path = operatorsPath ++ '/' :: segment ∧ '/' ∉ segment := by
  simp only [operatorSegment?] at found
  split at found
  · next shape =>
      cases found
      simp only [Bool.and_eq_true, Bool.not_eq_true', List.isPrefixOf_iff_prefix] at shape
      obtain ⟨⟨⟨rest, rfl⟩, -⟩, plain⟩ := shape
      rw [List.drop_left] at plain ⊢
      refine ⟨operatorPath_append rest, ?_⟩
      simpa using plain
  · cases found

/-- The fixed paths that lead to the directory. -/
theorem fixed_of_action {key method : String} {route : Route} {a : DirectoryAction}
    (row : (key, route) ∈ fixedRoutes) (entry : (method, Endpoint.directory a) ∈ route) :
    (key, method, a) ∈
      [ ("/admin/users", "GET", .list), ("/admin/users", "POST", .create),
        ("/admin/users/bulk-status", "POST", .setStatus),
        ("/admin/users/bulk-delete", "POST", .remove),
        ("/admin/users/invite", "POST", DirectoryAction.invite) ] := by
  simp only [fixedRoutes, List.mem_cons, List.not_mem_nil, or_false, Prod.mk.injEq] at row
  rcases row with row | row | row | row | row | row | row | row | row | row | row | row | row
      | row | row | row | row | row | row <;>
    obtain ⟨rfl, rfl⟩ := row <;>
    simp_all

/-- A method that is looked up in a route, where `HEAD` counts as `GET`. -/
theorem method_of_lookup {method looked : String}
    (same : (if method = "HEAD" then "GET" else method) = looked) :
    (looked = "GET" ∧ method = "HEAD") ∨ method = looked := by
  split at same
  · next head => exact .inl ⟨same.symm, head⟩
  · exact .inr same

/-- What a path leads to stands in a row of the table for it, or is an operation on one operator. -/
theorem Route.find?_cases {method : String} {path : List Char} {route : Route} {e : Endpoint}
    (found : Route.find? path = some route) (leads : route.endpoint? method = some e) :
    (∃ row ∈ fixedRoutes, row.1.toList = path ∧ ∃ entry ∈ row.2, entry.2 = e)
      ∨ ∃ segment, e = .directory (.update segment) ∨ e = .directory (.delete segment) := by
  have entry := mem_of_lookup leads
  unfold find? at found
  split at found
  · next fixed hfixed =>
      cases found
      exact .inl ⟨_, mem_of_lookup hfixed, String.toList_ofList, _, entry, rfl⟩
  · obtain ⟨segment, -, rfl⟩ := Option.map_eq_some_iff.mp found
    simp only [operatorRoute, List.mem_cons, List.not_mem_nil, or_false, Prod.mk.injEq] at entry
    exact .inr ⟨segment, entry.imp And.right And.right⟩

theorem isAt_of_route {method : String} {path : List Char} {route : Route} {a : DirectoryAction}
    (found : Route.find? path = some route)
    (leads : route.endpoint? method = some (.directory a)) : a.IsAt method path := by
  have entry := mem_of_lookup leads
  unfold Route.find? at found
  split at found
  · next fixed hfixed =>
      cases found
      have row := fixed_of_action (mem_of_lookup hfixed) entry
      simp only [List.mem_cons, List.not_mem_nil, or_false, Prod.mk.injEq] at row
      rcases row with ⟨hpath, hmethod, rfl⟩ | ⟨hpath, hmethod, rfl⟩ | ⟨hpath, hmethod, rfl⟩
          | ⟨hpath, hmethod, rfl⟩ | ⟨hpath, hmethod, rfl⟩
      all_goals
        have written := congrArg String.toList hpath
        rw [String.toList_ofList] at written
        have asked := method_of_lookup hmethod
      · exact ⟨asked.symm.imp_right And.right, written⟩
      · exact ⟨by simpa using asked, written⟩
      · exact ⟨by simpa using asked, written.trans (by decide +kernel)⟩
      · exact ⟨by simpa using asked, written.trans (by decide +kernel)⟩
      · exact ⟨by simpa using asked, written.trans (by decide +kernel)⟩
  · obtain ⟨segment, hsegment, rfl⟩ := Option.map_eq_some_iff.mp found
    obtain ⟨hpath, plain⟩ := path_of_operatorSegment hsegment
    simp only [operatorRoute, List.mem_cons, List.not_mem_nil, or_false, Prod.mk.injEq,
      Endpoint.directory.injEq] at entry
    rcases entry with ⟨hmethod, rfl⟩ | ⟨hmethod, rfl⟩
    · exact ⟨by simpa using method_of_lookup hmethod, hpath, plain⟩
    · exact ⟨by simpa using method_of_lookup hmethod, hpath, plain⟩

/-- The identifier in a path. -/
theorem pathNames_of_identifier {path segment : List Char} {id : Uuid}
    (hpath : path = operatorsPath ++ '/' :: segment) (plain : '/' ∉ segment)
    (read : DirectoryAction.identifier segment = .ok id) : PathNames path id := by
  refine ⟨segment, hpath, plain, ?_⟩
  unfold DirectoryAction.identifier at read
  split at read
  · next found =>
      cases read
      exact found
  · cases read

/-- An endpoint that performs an operation which changes the directory was asked for it. -/
theorem asksFor_of_operation {a : DirectoryAction} {r : Request} {fresh : Uuid}
    {op : Directory.Operation} (isAt : a.IsAt r.method r.target.path)
    (what : a.operation r fresh = .ok op) {d : Directory} {now : Instant}
    (changed : (d.perform now op).2 ≠ d) : r.AsksFor fresh op a.successStatus := by
  cases a with
  | list =>
      simp only [DirectoryAction.operation, bind_eq_ok_iff, Except.ok.injEq] at what
      obtain ⟨q, -, f, -, rfl⟩ := what
      exact absurd rfl changed
  | create =>
      simp only [DirectoryAction.operation, bind_eq_ok_iff, Except.ok.injEq] at what
      obtain ⟨new, body, rfl⟩ := what
      exact .create isAt.1 isAt.2 body
  | update segment =>
      simp only [DirectoryAction.operation, bind_eq_ok_iff, Except.ok.injEq] at what
      obtain ⟨id, named, patch, body, rfl⟩ := what
      exact .update isAt.1 (pathNames_of_identifier isAt.2.1 isAt.2.2 named) body
  | delete segment =>
      simp only [DirectoryAction.operation, bind_eq_ok_iff, Except.ok.injEq] at what
      obtain ⟨id, named, rfl⟩ := what
      exact .delete isAt.1 (pathNames_of_identifier isAt.2.1 isAt.2.2 named)
  | setStatus =>
      simp only [DirectoryAction.operation, bind_eq_ok_iff, Except.ok.injEq] at what
      obtain ⟨change, body, rfl⟩ := what
      exact .setStatus isAt.1 isAt.2 body
  | remove =>
      simp only [DirectoryAction.operation, bind_eq_ok_iff, Except.ok.injEq] at what
      obtain ⟨removal, body, rfl⟩ := what
      exact .remove isAt.1 isAt.2 body
  | invite =>
      simp only [DirectoryAction.operation, bind_eq_ok_iff, Except.ok.injEq] at what
      obtain ⟨invitation, -, rfl⟩ := what
      refine absurd ?_ changed
      simp only [Directory.perform, Directory.performUnder]
      split <;> rfl

/-! ## Paths of operators -/

/-- No fixed path names an operator, so the path of an operator is none of them. -/
theorem lookup_fixedRoutes_of_named {segment : List Char} {id : Uuid}
    (named : (Percent.text? segment).bind Uuid.parse? = some id) :
    fixedRoutes.lookup (String.ofList (operatorPath ++ segment)) = none := by
  have unnamed : ∀ row ∈ fixedRoutes, row.1.toList.take operatorPath.length = operatorPath →
      (Percent.text? (row.1.toList.drop operatorPath.length)).bind Uuid.parse? = none := by
    decide +kernel
  cases found : fixedRoutes.lookup (String.ofList (operatorPath ++ segment)) with
  | none => rfl
  | some route =>
      have absent := unnamed _ (mem_of_lookup found)
      rw [String.toList_ofList, List.take_left, List.drop_left, named] at absent
      cases absent rfl

theorem operatorSegment?_append {segment : List Char} (filled : segment ≠ [])
    (plain : '/' ∉ segment) : operatorSegment? (operatorPath ++ segment) = some segment := by
  have shape : (operatorPath.isPrefixOf (operatorPath ++ segment) && !segment.isEmpty
      && !segment.contains '/') = true := by
    simp [filled, plain]
  simp only [operatorSegment?, List.drop_left]
  rw [if_pos shape]

/-- The path of an operator leads to the route of one. -/
theorem find?_of_named {segment : List Char} {id : Uuid} (plain : '/' ∉ segment)
    (named : (Percent.text? segment).bind Uuid.parse? = some id) :
    Route.find? (operatorPath ++ segment) = some (operatorRoute segment) := by
  have filled : segment ≠ [] := by
    rintro rfl
    exact absurd (named.symm.trans (by decide +kernel)) (Option.some_ne_none id)
  unfold Route.find?
  rw [lookup_fixedRoutes_of_named named, operatorSegment?_append filled plain]
  rfl

namespace Service

variable (s : Service)

/-- The endpoint that a request leads to, if it leads to one. -/
def destination? (r : Request) : Option Endpoint :=
  if s.reportsMetrics && r.target.path == metricsPath then none
  else if r.method = preflightMethod then none
  else (Route.find? r.target.path).bind fun route => route.endpoint? r.method

/-- The directory after a request, answered or not. -/
def directoryAfter (c : Call) (d : Directory) : Directory :=
  match s.destination? c.request with
  | some e => (s.answer e c d).directory
  | none => d

/-! ## Requests that are carried out -/

theorem destination?_of_route {r : Request} {path : List Char} {method : String} {e : Endpoint}
    (hpath : r.target.path = path) (hmethod : r.method = method) (noFigures : path ≠ metricsPath)
    (noPreflight : method ≠ preflightMethod)
    (leads : ((Route.find? path).bind fun route => route.endpoint? method) = some e) :
    s.destination? r = some e := by
  unfold destination?
  rw [hpath, hmethod, if_neg (by simp [noFigures]), if_neg noPreflight, leads]

/-- The path of an operator leads to an endpoint of its route. -/
theorem destination?_of_named {r : Request} {segment : List Char} {id : Uuid} {method : String}
    {e : Endpoint} (hpath : r.target.path = operatorsPath ++ '/' :: segment)
    (hmethod : r.method = method) (plain : '/' ∉ segment)
    (named : (Percent.text? segment).bind Uuid.parse? = some id)
    (noPreflight : method ≠ preflightMethod)
    (leads : (operatorRoute segment).endpoint? method = some e) : s.destination? r = some e := by
  rw [← operatorPath_append] at hpath
  refine s.destination?_of_route hpath hmethod ?_ noPreflight ?_
  · intro figures
    have front := congrArg (List.take operatorPath.length) figures
    rw [List.take_left] at front
    exact absurd front (by decide +kernel)
  · rw [find?_of_named plain named, Option.bind_some, leads]

/-- A request for an operation leads to the endpoint that performs it. -/
theorem destination?_of_asksFor {r : Request} {fresh : Uuid} {op : Directory.Operation}
    {status : Nat} (asks : r.AsksFor fresh op status) :
    ∃ a, s.destination? r = some (.directory a) ∧ a.operation r fresh = .ok op := by
  cases asks with
  | create method path body =>
      refine ⟨.create, s.destination?_of_route path method (by decide +kernel) (by decide +kernel)
        (by decide +kernel), ?_⟩
      simp only [DirectoryAction.operation, body]
      rfl
  | update method path body =>
      obtain ⟨segment, hpath, plain, named⟩ := path
      refine ⟨.update segment, s.destination?_of_named hpath method plain named
        (by decide +kernel) rfl, ?_⟩
      simp only [DirectoryAction.operation, DirectoryAction.identifier, named, body]
      rfl
  | delete method path =>
      obtain ⟨segment, hpath, plain, named⟩ := path
      refine ⟨.delete segment, s.destination?_of_named hpath method plain named
        (by decide +kernel) rfl, ?_⟩
      simp only [DirectoryAction.operation, DirectoryAction.identifier, named]
      rfl
  | setStatus method path body =>
      refine ⟨.setStatus, s.destination?_of_route path method (by decide +kernel)
        (by decide +kernel) (by decide +kernel), ?_⟩
      simp only [DirectoryAction.operation, body]
      rfl
  | remove method path body =>
      refine ⟨.remove, s.destination?_of_route path method (by decide +kernel)
        (by decide +kernel) (by decide +kernel), ?_⟩
      simp only [DirectoryAction.operation, body]
      rfl

/-! ## Endpoints -/

/-- An endpoint that changes the directory is one of its own, has found that an operator sent the
request, and has performed the operation that the request asks for. -/
theorem answer_directory_ne {e : Endpoint} {c : Call} {d : Directory}
    (changed : (s.answer e c d).directory ≠ d) :
    ∃ a subject op, e = .directory a ∧ s.adminTokens.operator c.request c.now = .ok subject
      ∧ a.operation c.request c.operatorId = .ok op
      ∧ (s.answer e c d).directory = (d.perform c.now op).2
      ∧ (s.answer e c d).result = a.response (d.perform c.now op).1 := by
  cases e with
  | directory a =>
      simp only [answer, directoryAction] at changed ⊢
      cases who : s.adminTokens.operator c.request c.now with
      | error e => simp [who] at changed
      | ok subject =>
          cases what : a.operation c.request c.operatorId with
          | error e => simp [who, what] at changed
          | ok op => exact ⟨a, subject, op, rfl, rfl, what, rfl, rfl⟩
  | health => exact absurd rfl changed
  | ready => exact absurd rfl changed
  | learner page =>
      simp only [answer, learnerPage] at changed
      split at changed <;> exact absurd rfl changed
  | telegramSignIn =>
      simp only [answer, telegramSignIn] at changed
      split at changed <;> exact absurd rfl changed
  | adminSignIn =>
      simp only [answer, adminSignIn] at changed
      split at changed <;> exact absurd rfl changed
  | report r =>
      simp only [answer, reportPage] at changed
      split at changed <;> exact absurd rfl changed

/-- The sign-in of operators leaves the directory as it is. -/
theorem directory_adminSignIn (c : Call) (d : Directory) :
    (s.answer .adminSignIn c d).directory = d := by
  refine Classical.byContradiction fun changed => ?_
  obtain ⟨_, _, _, other, -⟩ := s.answer_directory_ne changed
  cases other

theorem isAt_of_destination {r : Request} {a : DirectoryAction}
    (leads : s.destination? r = some (.directory a)) : a.IsAt r.method r.target.path := by
  unfold destination? at leads
  split at leads
  · cases leads
  · split at leads
    · cases leads
    · obtain ⟨route, found, hroute⟩ := Option.bind_eq_some_iff.mp leads
      exact isAt_of_route found hroute

/-! ## Responses -/

/-- A visit to an endpoint leaves the directory of its outcome. -/
theorem endpointVisit_directory {e : Endpoint} {c : Call} {d : Directory} {v : Visit}
    (visited : s.endpointVisit e c d = some v) : v.directory = (s.answer e c d).directory := by
  rw [endpointVisit_eq] at visited
  obtain ⟨r, -, rfl⟩ := Option.map_eq_some_iff.mp visited
  rfl

/-- The path before which the limiter stands has one method, that of signing in. -/
theorem find?_signInPath : Route.find? signInPath = some [("POST", .adminSignIn)] := by
  decide +kernel

/-- The limiter stands before the sign-in of operators and before nothing else. -/
theorem limitHere_of_destination {c : Call} {e : Endpoint}
    (leads : s.destination? c.request = some e) (other : e ≠ .adminSignIn) :
    c.limitHere = .free := by
  refine if_neg fun ⟨path, asked⟩ => ?_
  unfold destination? at leads
  split at leads
  · cases leads
  · rw [path, find?_signInPath, Option.bind_some, Route.endpoint?, List.lookup_cons] at leads
    split at leads
    · exact other (Option.some.inj leads).symm
    · cases leads

theorem visit_of_destination {c : Call} {e : Endpoint} {st : State}
    (leads : s.destination? c.request = some e) :
    s.visit c st
      = (c.limitHere.around st.directory (s.endpointVisit e c st.directory)).map
          (Visit.mapResponse (s.dress c)) := by
  unfold destination? at leads
  split at leads
  · cases leads
  · next noFigures =>
      split at leads
      · cases leads
      · next noPreflight =>
          obtain ⟨route, found, hroute⟩ := Option.bind_eq_some_iff.mp leads
          simp only [visit, noFigures, routeVisit, found, noPreflight, hroute]
          rfl

/-- A request that leads to an endpoint and passes the limiter is answered by the response of the
outcome, with the traces of that; where the outcome is a breakdown it is not answered. -/
theorem respond_of_passing {c : Call} {e : Endpoint} (st : State)
    (leads : s.destination? c.request = some e) (passes : c.Passes) :
    ∃ recorder : Response → Metrics.Recorder, s.respond c st
      = (s.answer e c st.directory).response?.map fun r =>
          (finish c (s.dress c (r.withHeaders c.limitHere.headers)),
            (s.answer e c st.directory).statements,
            ⟨(s.answer e c st.directory).directory, recorder r⟩) := by
  unfold Call.Passes at passes
  simp only [respond, s.visit_of_destination leads, endpointVisit_eq, Limit.around, passes]
  cases (s.answer e c st.directory).response? with
  | none => exact ⟨fun _ => st.recorder, rfl⟩
  | some r => exact ⟨fun _ => _, rfl⟩

/-- At all other endpoints than the sign-in of operators there is no limiter to pass. -/
theorem passes_of_destination {c : Call} {e : Endpoint} (leads : s.destination? c.request = some e)
    (other : e ≠ .adminSignIn) : c.Passes :=
  congrArg Limit.page? (s.limitHere_of_destination leads other)

theorem passes_of_signIn {c : Call} {e : Endpoint} (leads : s.destination? c.request = some e)
    (signIn : e = .adminSignIn → c.Passes) : c.Passes := by
  by_cases same : e = .adminSignIn
  · exact signIn same
  · exact s.passes_of_destination leads same

/-- So their responses get no headers from one. -/
theorem respond_of_destination {c : Call} {e : Endpoint} (st : State)
    (leads : s.destination? c.request = some e) (other : e ≠ .adminSignIn) :
    ∃ recorder : Response → Metrics.Recorder, s.respond c st
      = (s.answer e c st.directory).response?.map fun r =>
          (finish c (s.dress c r), (s.answer e c st.directory).statements,
            ⟨(s.answer e c st.directory).directory, recorder r⟩) := by
  obtain ⟨recorder, answered⟩ :=
    s.respond_of_passing st leads (s.passes_of_destination leads other)
  rw [s.limitHere_of_destination leads other] at answered
  exact ⟨recorder, answered⟩

/-- A request that leads to an endpoint which succeeds is answered by its response. -/
theorem respond_of_answer {c : Call} {st : State} {e : Endpoint} {r : Response}
    (leads : s.destination? c.request = some e) (other : e ≠ .adminSignIn)
    (result : (s.answer e c st.directory).result = .ok r) :
    ∃ statements recorder, s.respond c st
      = some (finish c (s.dress c r), statements,
          ⟨(s.answer e c st.directory).directory, recorder⟩) := by
  obtain ⟨recorder, answered⟩ := s.respond_of_destination st leads other
  rw [Outcome.response?_of_ok result] at answered
  exact ⟨_, _, answered⟩

/-- An endpoint that refuses is heard, too. -/
theorem respond_of_refusal {c : Call} {st : State} {e : Endpoint} {cause : ApiError}
    (leads : s.destination? c.request = some e) (passes : c.Passes)
    (result : (s.answer e c st.directory).result = .error (.refused cause)) :
    ∃ statements st', s.respond c st
      = some (finish c (s.dress c (cause.response.withHeaders c.limitHere.headers)), statements,
          st') := by
  obtain ⟨recorder, answered⟩ := s.respond_of_passing st leads passes
  rw [Outcome.response?_of_refused result] at answered
  exact ⟨_, _, answered⟩

/-- Whoever is turned away by the limiter is answered with its page, and nothing is done. -/
theorem respond_of_turnedAway {c : Call} {page : LimitPage}
    (turned : c.limitHere.page? = some page) (st : State) :
    ∃ r recorder, s.respond c st = some (finish c r, [], ⟨st.directory, recorder⟩)
      ∧ WithMethods (s.dress c (page.response.withHeaders c.limitHere.headers)) r := by
  obtain ⟨path, asked⟩ : c.request.target.path = signInPath
      ∧ c.request.method ≠ preflightMethod := by
    refine Classical.byContradiction fun elsewhere => ?_
    rw [Call.limitHere, if_neg elsewhere] at turned
    cases turned
  have noFigures : (signInPath == metricsPath) = false := by decide
  suffices visited : ∃ r, (∀ recorder, s.visit c ⟨st.directory, recorder⟩
        = some ⟨r, st.directory, [], []⟩)
      ∧ WithMethods (s.dress c (page.response.withHeaders c.limitHere.headers)) r by
    obtain ⟨r, visited, told⟩ := visited
    obtain ⟨recorder, answered⟩ := s.respond_of_visit visited
    exact ⟨r, recorder, answered, told⟩
  simp only [visit, path, noFigures, Bool.and_false, Bool.false_eq_true, if_false, routeVisit,
    find?_signInPath, if_neg asked, Limit.around, turned]
  split
  · exact ⟨_, fun _ => rfl, .inl rfl⟩
  · exact ⟨_, fun _ => rfl, .inr ⟨_, rfl⟩⟩

/-- Where a request leads to no endpoint, its visit does not touch the directory. -/
theorem visit_directory_of_no_destination {c : Call} {st : State} {v : Visit}
    (leads : s.destination? c.request = none) (visited : s.visit c st = some v) :
    v.directory = st.directory := by
  unfold destination? at leads
  unfold visit at visited
  split at leads
  · next figures =>
      rw [if_pos figures] at visited
      cases visited
      rfl
  · next noFigures =>
      rw [if_neg noFigures] at visited
      cases s.visits_of_routeVisit visited with
      | preflight | nowhere | turnedAway | wrongMethod => rfl
      | endpoint asked found hroute =>
          rw [if_neg asked, found, Option.bind_some, hroute] at leads
          cases leads

theorem visit_directory {c : Call} {d : Directory} {recorder : Metrics.Recorder} {v : Visit}
    (visited : s.visit c ⟨d, recorder⟩ = some v) : v.directory = s.directoryAfter c d := by
  unfold directoryAfter
  cases leads : s.destination? c.request with
  | none => exact s.visit_directory_of_no_destination leads visited
  | some e =>
      rw [s.visit_of_destination leads] at visited
      obtain ⟨inner, past, rfl⟩ := Option.map_eq_some_iff.mp visited
      obtain ⟨page, turned, rfl⟩ | ⟨-, own, reached, rfl⟩ := Limit.around_eq_some_iff.mp past
      · -- Whoever is turned away was about to sign in, and nobody signs in to the directory.
        by_cases signIn : e = .adminSignIn
        · rw [signIn]
          exact (s.directory_adminSignIn c d).symm
        · rw [s.limitHere_of_destination leads signIn] at turned
          cases turned
      · show own.directory = _
        exact s.endpointVisit_directory reached

/-- The state after a request that is answered holds the directory after that request. -/
theorem respond_directory {c : Call} {st st' : State} {response : Response}
    {statements : List Statement} (answered : s.respond c st = some (response, statements, st')) :
    st'.directory = s.directoryAfter c st.directory := by
  obtain ⟨v, visited, -, -, rfl⟩ := s.visit_of_respond answered
  exact s.visit_directory visited

/-! ## Senders -/

/-- An operator is known by a token that is accepted and by a role that may use the console. -/
theorem sender_of_operator {tokens : TokenService} {r : Request} {now : Instant}
    {subject : TokenSubject} (known : tokens.operator r now = .ok subject) :
    ∃ token, r.bearer? = some token ∧ tokens.verify token now = .ok subject
      ∧ (subject.role = .admin ∨ subject.role = .superAdmin) := by
  obtain ⟨sent, allowed⟩ := TokenService.operator_eq_ok_iff.mp known
  unfold TokenService.sender at sent
  split at sent
  · cases sent
  · next token carried =>
      refine ⟨token, carried, sent, ?_⟩
      cases role : subject.role with
      | user => simp [role, Role.isAdmin] at allowed
      | admin => exact .inl rfl
      | superAdmin => exact .inr rfl

/-- A request with a token that is accepted is known to come from an operator if the role may use
the console. -/
theorem operator_of_token {tokens : TokenService} {r : Request} {now : Instant} {token : String}
    {subject : TokenSubject} (carried : r.bearer? = some token)
    (accepted : tokens.verify token now = .ok subject)
    (role : subject.role = .admin ∨ subject.role = .superAdmin) :
    tokens.operator r now = .ok subject := by
  have allowed : subject.role.isAdmin = true := by
    rcases role with role | role <;> rw [role] <;> rfl
  have sent : tokens.sender r now = .ok subject :=
    (TokenService.sender_of_bearer? carried).trans accepted
  exact TokenService.operator_eq_ok_iff.mpr ⟨sent, allowed⟩

/-! ## Changes -/

/-- A refused operation is no change, so an operation that changes the directory is answered with
the status of success. -/
theorem response_of_change {a : DirectoryAction} {d : Directory} {now : Instant}
    {op : Directory.Operation} (changed : (d.perform now op).2 ≠ d) :
    a.response (d.perform now op).1
      = .ok (Response.of a.successStatus (a.body (d.perform now op).1)) := by
  unfold DirectoryAction.response
  split
  · next failed => exact absurd (Directory.performUnder_failed failed) changed
  · rfl

/-- A request after which the directory is another one. -/
theorem change_cases {c : Call} {st : State}
    (changed : s.directoryAfter c st.directory ≠ st.directory) :
    ∃ token subject op response statements recorder,
      c.request.bearer? = some token ∧ s.adminTokens.verify token c.now = .ok subject
        ∧ (subject.role = .admin ∨ subject.role = .superAdmin)
        ∧ c.request.AsksFor c.operatorId op response.status
        ∧ s.respond c st
            = some (response, statements, ⟨(st.directory.perform c.now op).2, recorder⟩) := by
  unfold directoryAfter at changed
  split at changed
  · next e leads =>
      obtain ⟨a, subject, op, rfl, known, what, directory, result⟩ := s.answer_directory_ne changed
      rw [directory] at changed
      rw [response_of_change changed] at result
      obtain ⟨token, carried, accepted, role⟩ := sender_of_operator known
      obtain ⟨statements, recorder, answered⟩ := s.respond_of_answer leads
        (fun same => by cases same) result
      refine ⟨token, subject, op, _, statements, recorder, carried, accepted, role, ?_,
        by rw [answered, directory]⟩
      rw [status_finish, status_dress, Response.status_of]
      exact asksFor_of_operation (s.isAt_of_destination leads) what changed
  · exact absurd rfl changed

/-- A request for an operation that an operator sends is carried out. -/
theorem directoryAfter_of_asksFor {c : Call} {d : Directory} {subject : TokenSubject}
    {op : Directory.Operation} {status : Nat}
    (known : s.adminTokens.operator c.request c.now = .ok subject)
    (asks : c.request.AsksFor c.operatorId op status) :
    s.directoryAfter c d = (d.perform c.now op).2 := by
  obtain ⟨a, leads, what⟩ := s.destination?_of_asksFor asks
  simp only [directoryAfter, leads, answer, directoryAction, known, what]

/-- Whatever is asked of the service, the directory changes only when the request carries a token
of an operator that is accepted at the time. The change is then that of the one operation which
method, path and body ask for, and the response says 200, 201 or 204. So a response with a status
from 400 on leaves the directory as it was, and so does every request to read something. What an
operator asks for with such a token is carried out. -/
theorem directory_changes_authorised (c : Call) (st : State) :
    (s.directoryAfter c st.directory ≠ st.directory →
      ∃ token subject op response statements recorder,
        c.request.bearer? = some token ∧ s.adminTokens.verify token c.now = .ok subject
          ∧ (subject.role = .admin ∨ subject.role = .superAdmin)
          ∧ c.request.AsksFor c.operatorId op response.status
          ∧ response.status ∈ [200, 201, 204]
          ∧ s.respond c st
              = some (response, statements, ⟨(st.directory.perform c.now op).2, recorder⟩))
      ∧ (∀ response statements st', s.respond c st = some (response, statements, st') →
          st'.directory = s.directoryAfter c st.directory
            ∧ (400 ≤ response.status → st'.directory = st.directory))
      ∧ (c.request.method ∈ ["GET", "HEAD", "OPTIONS"] →
          s.directoryAfter c st.directory = st.directory)
      ∧ (∀ token subject op status, c.request.bearer? = some token →
          s.adminTokens.verify token c.now = .ok subject →
          (subject.role = .admin ∨ subject.role = .superAdmin) →
          c.request.AsksFor c.operatorId op status →
          s.directoryAfter c st.directory = (st.directory.perform c.now op).2) := by
  refine ⟨fun changed => ?_, fun response statements st' answered => ?_, fun reads => ?_, ?_⟩
  · obtain ⟨token, subject, op, response, statements, recorder, carried, accepted, role, asks,
      answered⟩ := s.change_cases changed
    exact ⟨token, subject, op, response, statements, recorder, carried, accepted, role, asks,
      asks.status_mem, answered⟩
  · refine ⟨s.respond_directory answered, fun refused => ?_⟩
    refine Classical.byContradiction fun other => ?_
    rw [s.respond_directory answered] at other
    obtain ⟨_, _, _, _, _, _, -, -, -, asks, same⟩ := s.change_cases other
    rw [answered] at same
    cases same
    have success := asks.status_mem
    simp only [List.mem_cons, List.not_mem_nil, or_false] at success
    omega
  · refine Classical.byContradiction fun changed => ?_
    obtain ⟨_, _, _, _, _, _, -, -, -, asks, -⟩ := s.change_cases changed
    exact asks.method_not_mem reads
  · intro token subject op status carried accepted role asks
    exact s.directoryAfter_of_asksFor (operator_of_token carried accepted role) asks

end Service

end StudyHall
