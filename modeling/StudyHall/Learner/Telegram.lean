import StudyHall.Api.Payload
import StudyHall.Auth.Token
import StudyHall.Learner.Database
import StudyHall.Learner.Views

/-!
# Signing in through Telegram

A learner is looked up by the Telegram identifier. Whoever is known gets a new time of last login;
whoever is not gets an account and empty progress. This is one transaction. Only after it are the
stored codes interpreted and the token signed.
-/

namespace StudyHall

namespace TelegramSignIn

/-- The account of a learner who is known, marked as logged in. -/
def welcomeBack (u : UserRecord) : Session UserRecord := do
  Session.send (.touchLastLogin u.id u.primaryExam)
  Session.pure u

/-- A new account with empty progress. -/
def register (t : TelegramSignIn) : Session UserRecord := do
  let rows ← Session.send
    (.createTelegramUser t.displayName t.telegramId t.exam.code Role.user.code)
  let u ← Session.theOne rows
  Session.send (.createExamProfile u.id u.primaryExam)
  Session.pure u

/-- The account of a learner, in one transaction. -/
def account (t : TelegramSignIn) : Session UserRecord := do
  Session.send .begin
  let rows ← Session.send (.findByTelegramId t.telegramId)
  let u ← match Session.theFirst rows with
    | some u => welcomeBack u
    | none => t.register
  Session.send .commit
  Session.pure u

/-- A token for an account. -/
def present (tokens : TokenService) (now : Instant) (u : UserRecord) :
    Except (Fault ApiError) AuthResponse :=
  match u.toView with
  | .error e => .error (.refused e)
  | .ok view =>
      match tokens.sign view.id view.role (some view.primaryExam) now with
      | .ok token => .ok ⟨token, view⟩
      | .error e => .error e

/-- The sign-in of a learner. -/
def run (t : TelegramSignIn) (tokens : TokenService) (now : Instant) : Session AuthResponse := do
  let u ← t.account
  Session.ofExcept (present tokens now u)

end TelegramSignIn

end StudyHall
