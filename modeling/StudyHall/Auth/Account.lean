import StudyHall.Api.Payload
import StudyHall.Auth.Token
import StudyHall.Learner.Views

/-!
# Signing in to the console

The one account with a password, and who it lets in: the name and the password must be exactly
those of the settings. The token carries identity, role and exam of the first operator.
-/

namespace StudyHall

/-- The account of the first operator. -/
structure AdminAccount where
  username : String
  password : String
  profile : AdminProfile
  deriving DecidableEq

namespace AdminAccount

/-- Whether credentials are those of the account. -/
def recognizes (a : AdminAccount) (c : Credentials) : Bool :=
  c.username == a.username && c.password == a.password

/-- A token for whoever has the right credentials. -/
def signIn (a : AdminAccount) (tokens : TokenService) (c : Credentials) (now : Instant) :
    Except (Fault ApiError) AuthResponse :=
  if a.recognizes c then
    match tokens.sign a.profile.id a.profile.role (some a.profile.primaryExam) now with
    | .ok token => .ok ⟨token, a.profile.toView⟩
    | .error e => .error e
  else .error (.refused .invalidCredentials)

end AdminAccount

end StudyHall
