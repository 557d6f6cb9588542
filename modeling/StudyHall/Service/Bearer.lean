import StudyHall.Auth.Token
import StudyHall.Http.Message

/-!
# Who sends a request

A request is signed by a token in its `Authorization` header, after the word `Bearer` in any case
and one space. Learners and operators sign with tokens of different services, and an operator
needs a role that may use the console.
-/

namespace StudyHall

open Text

/-- The word before a token. -/
def bearerWord : String := "bearer"

/-- The token that a request is signed by. -/
def Request.bearer? (r : Request) : Option String :=
  match r.headerText? "authorization" with
  | none => none
  | some v =>
      let cs := v.toList
      if (cs.take bearerWord.length).map asciiLowerChar = bearerWord.toList
          ∧ cs[bearerWord.length]? = some ' ' then
        some (String.ofList ((cs.drop (bearerWord.length + 1)).dropWhile isBlank))
      else none

/-- Whom the token of a request identifies. -/
def TokenService.sender (tokens : TokenService) (r : Request) (now : Instant) :
    Except (Fault ApiError) TokenSubject :=
  match r.bearer? with
  | none => .error (.refused .missingToken)
  | some token => tokens.verify token now

/-- The operator whom the token of a request identifies. -/
def TokenService.operator (tokens : TokenService) (r : Request) (now : Instant) :
    Except (Fault ApiError) TokenSubject :=
  match tokens.sender r now with
  | .error e => .error e
  | .ok subject =>
      if subject.role.isAdmin then .ok subject else .error (.refused .insufficientRole)

namespace TokenService

variable {tokens : TokenService} {r : Request} {now : Instant} {subject : TokenSubject}

/-- The sender of a request with a token is whom the token identifies. -/
theorem sender_of_bearer? {token : String} (carried : r.bearer? = some token) :
    tokens.sender r now = tokens.verify token now := by
  unfold sender
  rw [carried]

/-- An operator is a sender whose role may use the console. -/
theorem operator_eq_ok_iff :
    tokens.operator r now = .ok subject ↔
      tokens.sender r now = .ok subject ∧ subject.role.isAdmin = true := by
  unfold operator
  cases tokens.sender r now with
  | error fault => simp
  | ok who =>
      by_cases may : who.role.isAdmin = true
      · simp only [may, if_true, Except.ok.injEq]
        constructor
        · intro same
          exact ⟨same, same ▸ may⟩
        · rintro ⟨same, -⟩
          exact same
      · simp only [may, Bool.false_eq_true, if_false, reduceCtorEq, Except.ok.injEq, false_iff]
        rintro ⟨rfl, again⟩
        exact may again

end TokenService

end StudyHall
