import StudyHall.Domain.Fault

/-!
# Refusals of the service

The causes for which a request is answered with an error, the status that belongs to each, and
what the caller is told. A failure of the service itself is told in one general sentence, whatever
its cause.
-/

namespace StudyHall

/-- Why a request is answered with an error. -/
inductive ApiError where
  | validation (text : String)
  | auth (text : String)
  | forbidden (text : String)
  | notFound (text : String)
  | console (cause : ConsoleError)
  | database (text : String)
  | token (text : String)
  | internal (text : String)
  deriving DecidableEq, Repr

namespace ApiError

/-- The status of the answer. -/
def status : ApiError → Nat
  | .validation _ => 400
  | .auth _ => 401
  | .forbidden _ => 403
  | .notFound _ => 404
  | .console .invalidMetric => 400
  | .console .invalidRange => 400
  | .console .userNotFound => 404
  | .console .duplicateUsername => 409
  | .console .duplicateEmail => 409
  | .database _ => 500
  | .token _ => 500
  | .internal _ => 500

/-- The cause in words, for the operators of the service. -/
def message : ApiError → String
  | .validation t => t
  | .auth t => t
  | .forbidden t => t
  | .notFound t => t
  | .console c => c.message
  | .database t => "Database error: " ++ t
  | .token t => "JWT error: " ++ t
  | .internal t => "Internal error: " ++ t

/-- Whether the fault is that of the service. -/
def isInternal (e : ApiError) : Bool :=
  e.status == 500

/-- What the caller is told. -/
def publicMessage (e : ApiError) : String :=
  if e.isInternal then "internal server error" else e.message

/-! ## Refusals with fixed words -/

/-- There is no token that could be checked. -/
def missingToken : ApiError := .auth "missing or invalid token"

/-- The token is not accepted. -/
def invalidToken : ApiError := .auth "invalid token"

/-- The name or the password is wrong. -/
def invalidCredentials : ApiError := .auth "invalid credentials"

/-- The role does not suffice. -/
def insufficientRole : ApiError := .forbidden "insufficient role"

end ApiError

end StudyHall
