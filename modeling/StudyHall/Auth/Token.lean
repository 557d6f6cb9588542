import StudyHall.Api.Error
import StudyHall.Auth.Claims
import StudyHall.Auth.Header
import StudyHall.Auth.SideClaims
import StudyHall.Bytes.Base64Url
import StudyHall.Bytes.Sha256
import StudyHall.Json.Printer
import StudyHall.Json.Reader
import StudyHall.Text.Blank

/-!
# Signed tokens

A token has three parts in base 64 with dots between them: a header, the claims, and the keyed
hash of the two parts before it. A service signs and checks tokens under one secret, for one
issuer, with one lifetime.

## Main definitions

* `TokenService.sign` gives a token that is valid from now on for the lifetime of the service.
* `TokenService.verify` checks the form, the header, the signature, the claims, the clock, the
  expiry with 60 seconds of grace, the issuer, the audience, and last the identifier of the bearer.
-/

namespace StudyHall

open Text

/-! ## Services -/

/-- The greatest lifetime in seconds, 2⁶³ - 1 milliseconds. -/
def maxLifetimeSeconds : Int := Int.ofNat (maxInt64 / 1000)

/-- A secret, an issuer and how long a token lasts. -/
structure TokenService where
  secret : String
  issuer : String
  lifetime : Span
  deriving DecidableEq

/-- The service with a lifetime in minutes, unless that is too long to be counted. -/
def TokenService.ofMinutes? (secret issuer : String) (minutes : Int) : Option TokenService :=
  if (60 * minutes).natAbs ≤ maxLifetimeSeconds then
    some ⟨secret, issuer, Span.seconds (60 * minutes)⟩
  else none

/-- Whom a token identifies. -/
structure TokenSubject where
  userId : Uuid
  role : Role
  exam : Option Exam
  deriving DecidableEq

/-! ## Signing -/

/-- The header of every token. -/
def tokenHeader : Json :=
  Json.ofFields [("typ", .text "JWT"), ("alg", .text "HS256")]

/-- A JSON value as a part of a token. -/
def tokenPart (j : Json) : List Char :=
  Base64Url.encode (Utf8.encode j.renderChars)

/-- The keyed hash of characters under the secret of a service. -/
def TokenService.mac (s : TokenService) (message : List Char) : List UInt8 :=
  Sha256.mac (Utf8.ofText s.secret) (Utf8.encode message)

/-- The signature of characters, as a part of a token. -/
def TokenService.signature (s : TokenService) (message : List Char) : List Char :=
  Base64Url.encode (s.mac message)

/-- The token of a header and claims that are given as parts. -/
def TokenService.seal (s : TokenService) (header payload : List Char) : String :=
  let message := header ++ '.' :: payload
  String.ofList (message ++ '.' :: s.signature message)

/-- The claims of a token that is signed now. -/
def TokenService.claims? (s : TokenService) (userId : Uuid) (role : Role) (exam : Option Exam)
    (now : Instant) : Option Claims :=
  (now.after? s.lifetime).map fun t =>
    ⟨userId.toText, role, exam, s.issuer, now.seconds, t.seconds⟩

/-- A token that is valid from now on, if the end of its lifetime is a representable time. -/
def TokenService.sign (s : TokenService) (userId : Uuid) (role : Role) (exam : Option Exam)
    (now : Instant) : Except (Fault ApiError) String :=
  match s.claims? userId role exam now with
  | some c => .ok (s.seal (tokenPart tokenHeader) (tokenPart c.toJson))
  | none => .error .outsideCalendar

/-! ## Verifying -/

/-- The seconds for which a token is still accepted after it has expired. -/
def graceSeconds : Int := 60

/-- Whether a payload is that of a valid token at a time. -/
def TokenService.accepts (s : TokenService) (p : Payload) (now : Instant) : Bool :=
  now.seconds - graceSeconds ≤ p.claims.expiresAt && p.claims.issuer == s.issuer && !p.hasAudience

theorem TokenService.accepts_eq_true_iff {s : TokenService} {p : Payload} {now : Instant} :
    s.accepts p now = true ↔ now.seconds ≤ p.claims.expiresAt + 60
      ∧ p.claims.issuer = s.issuer ∧ p.hasAudience = false := by
  simp only [accepts, Bool.and_eq_true, decide_eq_true_eq, beq_iff_eq, Bool.not_eq_true',
    and_assoc]
  unfold graceSeconds
  have window : now.seconds - 60 ≤ p.claims.expiresAt ↔ now.seconds ≤ p.claims.expiresAt + 60 := by
    omega
  rw [window]

/-- The JSON value that is written as a part of a token. -/
def partValue? (part : List Char) : Option Json :=
  (Base64Url.decode? part).bind Json.ofBytes?

/-- The payload of a token in three parts, if it is signed; one that expires before 1970 is none. -/
def TokenService.signedPayload? (s : TokenService) (header payload signature : List Char) :
    Option Payload := do
  let h ← partValue? header
  if isTokenHeader h
      && Base64Url.decode? signature == some (s.mac (header ++ '.' :: payload)) then
    let p ← (partValue? payload).bind Payload.ofJson?
    if 0 ≤ p.claims.expiresAt then some p else none
  else none

/-- The subject of a valid token. The clock is set back by the seconds of grace, and that cannot be
done before as many have passed since 1970. -/
def TokenService.verify (s : TokenService) (token : String) (now : Instant) :
    Except (Fault ApiError) TokenSubject :=
  match pieces (· == '.') token.toList with
  | [header, payload, signature] =>
      match s.signedPayload? header payload signature with
      | none => .error (.refused .invalidToken)
      | some p =>
          if now.seconds < graceSeconds then .error .earlyClock
          else if s.accepts p now then
            match Uuid.parse? p.claims.userId with
            | some id => .ok ⟨id, p.claims.role, p.claims.exam⟩
            | none => .error (.refused .invalidToken)
          else .error (.refused .invalidToken)
  | _ => .error (.refused .invalidToken)

end StudyHall
