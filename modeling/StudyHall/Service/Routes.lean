import StudyHall.Learner.Pages

/-!
# Routes

Which path and method lead where. A path is compared as it was written, with its escapes. A fixed
path wins over one with a variable part; the variable part is one segment and not empty.
-/

namespace StudyHall

/-! ## Endpoints -/

/-- An operation on the directory that a request asks for; an identifier is kept as it was
written. -/
inductive DirectoryAction where
  | list
  | create
  | update (id : List Char)
  | delete (id : List Char)
  | setStatus
  | remove
  | invite
  deriving DecidableEq

/-- Something an operator can look at that is not the directory. -/
inductive Report where
  | ownProfile
  | timeSeries
  | subjectAccuracy
  | weakTopics
  | upcomingEvents
  | referrals
  deriving DecidableEq

/-- Where a request can lead. -/
inductive Endpoint where
  | health
  | ready
  | learner (page : LearnerPage)
  | telegramSignIn
  | adminSignIn
  | directory (action : DirectoryAction)
  | report (report : Report)
  deriving DecidableEq

/-- Whether an endpoint is for operators only. -/
def Endpoint.isForOperators : Endpoint → Bool
  | .directory _ => true
  | .report _ => true
  | _ => false

/-! ## The table -/

/-- The methods of a path, each with its endpoint. -/
abbrev Route := List (String × Endpoint)

/-- The fixed paths. -/
def fixedRoutes : List (String × Route) :=
  [ ("/health", [("GET", .health)]),
    ("/health/ready", [("GET", .ready)]),
    ("/me", [("GET", .learner .me)]),
    ("/subjects", [("GET", .learner .subjects)]),
    ("/topics", [("GET", .learner .topics)]),
    ("/leaderboard", [("GET", .learner .leaderboard)]),
    ("/feed", [("GET", .learner .feed)]),
    ("/auth/telegram", [("POST", .telegramSignIn)]),
    ("/auth/admin/me", [("GET", .report .ownProfile)]),
    ("/auth/admin/login", [("POST", .adminSignIn)]),
    ("/admin/users", [("GET", .directory .list), ("POST", .directory .create)]),
    ("/admin/users/bulk-status", [("POST", .directory .setStatus)]),
    ("/admin/users/bulk-delete", [("POST", .directory .remove)]),
    ("/admin/users/invite", [("POST", .directory .invite)]),
    ("/admin/analytics/time-series", [("GET", .report .timeSeries)]),
    ("/admin/analytics/subject-accuracy", [("GET", .report .subjectAccuracy)]),
    ("/admin/analytics/weak-topics", [("GET", .report .weakTopics)]),
    ("/admin/events/upcoming", [("GET", .report .upcomingEvents)]),
    ("/admin/referrals/summary", [("GET", .report .referrals)]) ]

/-- What stands before the identifier in the path of one operator. -/
def operatorPath : List Char := "/admin/users/".toList

/-- The route of one operator. -/
def operatorRoute (id : List Char) : Route :=
  [("PATCH", .directory (.update id)), ("DELETE", .directory (.delete id))]

/-- The identifier in the path of one operator. -/
def operatorSegment? (path : List Char) : Option (List Char) :=
  let id := path.drop operatorPath.length
  if operatorPath.isPrefixOf path && !id.isEmpty && !id.contains '/' then some id else none

/-- The route of a path. -/
def Route.find? (path : List Char) : Option Route :=
  match fixedRoutes.lookup (String.ofList path) with
  | some route => some route
  | none => (operatorSegment? path).map operatorRoute

/-- The endpoint of a method; a request for the head of a page goes where the page is. -/
def Route.endpoint? (route : Route) (method : String) : Option Endpoint :=
  route.lookup (if method = "HEAD" then "GET" else method)

/-- The methods of a route, as they are told to a caller who used another one. -/
def Route.allowed (route : Route) : String :=
  String.intercalate "," (route.flatMap fun m => if m.1 = "GET" then ["GET", "HEAD"] else [m.1])

end StudyHall
