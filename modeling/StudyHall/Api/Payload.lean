import StudyHall.Api.Error
import StudyHall.Console.Operator
import StudyHall.Http.MediaType
import StudyHall.Http.Message
import StudyHall.Json.Reader
import StudyHall.Mail.Address
import StudyHall.Wire.Codes

/-!
# Request bodies

What callers send, and the rules that it must satisfy. A schema pairs the reader of a record with
the rules on its fields; a body is accepted when its media type stands for JSON, it reads as the
record, and no rule is broken. All broken rules are told together, sorted by field.

## Main definitions

* `Flaw` is a broken rule; `describe` words a list of them.
* `Schema.accept` reads a body under a schema.
* `createSchema`, `updateSchema`, … are the schemas of the service.
-/

namespace StudyHall

/-! ## Rules -/

/-- A field with what is wrong with it. -/
structure Flaw where
  field : String
  text : String
  deriving DecidableEq, Repr

namespace Flaw

/-- The wording of one flaw. -/
def message (f : Flaw) : String :=
  f.field ++ ": " ++ f.text

/-- The order in which flaws are told. -/
def before (a b : Flaw) : Bool :=
  a.field ≤ b.field

end Flaw

/-- The wording of flaws, sorted by field. -/
def describe (flaws : List Flaw) : String :=
  String.intercalate "; " ((flaws.mergeSort Flaw.before).map Flaw.message)

/-- Whether the length of a text lies between two bounds. -/
def lengthWithin (low high : Nat) (s : String) : Bool :=
  low ≤ s.length && s.length ≤ high

/-- A flaw of a field unless a condition holds. -/
def flawUnless (condition : Bool) (field text : String) : List Flaw :=
  if condition then [] else [⟨field, text⟩]

/-! ## Schemas -/

/-- How a record is read, and which of its rules are broken. -/
structure Schema (α : Type) where
  read? : Json → Option α
  flaws : α → List Flaw

/-- The number of bytes that a body may have. -/
def bodyLimit : Nat := 2 * 1024 * 1024

/-- The body is not a record of the expected kind. Where a reader stopped, and at what, is not told
here: that would follow these words. -/
def malformedPayload : ApiError := .validation "invalid payload"

/-- The body is not declared to be JSON. -/
def undeclaredPayload : ApiError :=
  .validation "invalid payload: Expected request with \x60Content-Type: application/json\x60"

namespace Schema

variable {α : Type}

/-- Whether a request declares its body to be JSON. -/
def declaresJson (r : Request) : Bool :=
  (r.headerText? "content-type").any MediaType.isJson

/-- The record of a body, if there is one. -/
def record? (schema : Schema α) (body : List UInt8) : Option α :=
  if body.length ≤ bodyLimit then (Json.ofBytes? body).bind schema.read? else none

/-- A record without broken rules. -/
def check (schema : Schema α) (value : α) : Except ApiError α :=
  match schema.flaws value with
  | [] => .ok value
  | flaws => .error (.validation (describe flaws))

/-- The record that a request carries. -/
def accept (schema : Schema α) (r : Request) : Except ApiError α :=
  if declaresJson r then
    match schema.record? r.body with
    | some value => schema.check value
    | none => .error malformedPayload
  else .error undeclaredPayload

end Schema

/-! ## Operators -/

/-- What is wrong with a user name. -/
def usernameFlaws (s : String) : List Flaw :=
  flawUnless (lengthWithin 1 64 s) "username" "must be 1-64 characters"

/-- What is wrong with a mail address. -/
def emailFlaws (s : String) : List Flaw :=
  flawUnless (Mail.isAddress s) "email" "must be a valid email"

/-- What is wrong with a text that must not be empty. -/
def requiredFlaws (field s : String) : List Flaw :=
  flawUnless (1 ≤ s.length) field "is required"

/-- The new operator that a JSON value denotes. -/
def NewOperator.ofJson? (j : Json) : Option NewOperator := do
  let r ← j.record?
    ["firstName", "lastName", "username", "email", "phoneNumber", "role", "status"]
  some
    { firstName := ← r.required "firstName" Json.text?
      lastName := ← r.required "lastName" Json.text?
      username := ← r.required "username" Json.text?
      email := ← r.required "email" Json.text?
      phoneNumber := ← r.required "phoneNumber" Json.text?
      role := ← r.required "role" OperatorRole.ofJson?
      status := ← r.required "status" OperatorStatus.ofJson? }

/-- The schema of a new operator. -/
def createSchema : Schema NewOperator where
  read? := NewOperator.ofJson?
  flaws o :=
    requiredFlaws "first_name" o.firstName ++ requiredFlaws "last_name" o.lastName
      ++ usernameFlaws o.username ++ emailFlaws o.email
      ++ requiredFlaws "phone_number" o.phoneNumber

/-- The patch that a JSON value denotes. -/
def OperatorPatch.ofJson? (j : Json) : Option OperatorPatch := do
  let r ← j.record?
    ["firstName", "lastName", "username", "email", "phoneNumber", "role", "status"]
  some
    { firstName := ← r.optional "firstName" Json.text?
      lastName := ← r.optional "lastName" Json.text?
      username := ← r.optional "username" Json.text?
      email := ← r.optional "email" Json.text?
      phoneNumber := ← r.optional "phoneNumber" Json.text?
      role := ← r.optional "role" OperatorRole.ofJson?
      status := ← r.optional "status" OperatorStatus.ofJson? }

/-- The schema of a patch; only what is changed must satisfy the rules. -/
def updateSchema : Schema OperatorPatch where
  read? := OperatorPatch.ofJson?
  flaws p := p.username.elim [] usernameFlaws ++ p.email.elim [] emailFlaws

/-! ## Many operators at once -/

/-- A state to set on operators. -/
structure StatusChange where
  userIds : List Uuid
  status : OperatorStatus
  deriving DecidableEq

/-- The change of state that a JSON value denotes. -/
def StatusChange.ofJson? (j : Json) : Option StatusChange := do
  let r ← j.record? ["userIds", "status"]
  some
    { userIds := ← r.required "userIds" (Json.list? Uuid.ofJson?)
      status := ← r.required "status" OperatorStatus.ofJson? }

/-- What is wrong with a list of operators. -/
def idsFlaws (ids : List Uuid) : List Flaw :=
  flawUnless (!ids.isEmpty) "user_ids" "must not be empty"

/-- The schema of a change of state. -/
def statusSchema : Schema StatusChange where
  read? := StatusChange.ofJson?
  flaws c := idsFlaws c.userIds

/-- Operators to remove. -/
structure Removal where
  userIds : List Uuid
  deriving DecidableEq

/-- The removal that a JSON value denotes. -/
def Removal.ofJson? (j : Json) : Option Removal := do
  let r ← j.record? ["userIds"]
  some { userIds := ← r.required "userIds" (Json.list? Uuid.ofJson?) }

/-- The schema of a removal. -/
def removalSchema : Schema Removal where
  read? := Removal.ofJson?
  flaws r := idsFlaws r.userIds

/-! ## Invitations -/

/-- An invitation to become an operator. -/
structure Invitation where
  email : String
  role : OperatorRole
  message : Option String
  deriving DecidableEq

/-- The invitation that a JSON value denotes. -/
def Invitation.ofJson? (j : Json) : Option Invitation := do
  let r ← j.record? ["email", "role", "message"]
  some
    { email := ← r.required "email" Json.text?
      role := ← r.required "role" OperatorRole.ofJson?
      message := ← r.optionalOrMissing "message" Json.text? }

/-- The schema of an invitation. -/
def invitationSchema : Schema Invitation where
  read? := Invitation.ofJson?
  flaws v := emailFlaws v.email

/-! ## Signing in -/

/-- A learner who signs in through Telegram. -/
structure TelegramSignIn where
  telegramId : String
  displayName : String
  exam : Exam
  deriving DecidableEq

/-- The sign-in that a JSON value denotes. -/
def TelegramSignIn.ofJson? (j : Json) : Option TelegramSignIn := do
  let r ← j.record? ["telegramId", "displayName", "exam"]
  some
    { telegramId := ← r.required "telegramId" Json.text?
      displayName := ← r.defaulted "displayName" "" Json.text?
      exam := ← r.required "exam" Exam.ofJson? }

/-- The schema of a learner who signs in. -/
def telegramSchema : Schema TelegramSignIn where
  read? := TelegramSignIn.ofJson?
  flaws t :=
    flawUnless (lengthWithin 1 64 t.telegramId) "telegram_id" "is required"
      ++ flawUnless (t.displayName.length ≤ 255) "display_name" "is invalid"

/-- The name and the password of an operator who signs in. -/
structure Credentials where
  username : String
  password : String
  deriving DecidableEq

/-- The credentials that a JSON value denotes. -/
def Credentials.ofJson? (j : Json) : Option Credentials := do
  let r ← j.record? ["username", "password"]
  some
    { username := ← r.required "username" Json.text?
      password := ← r.required "password" Json.text? }

/-- The schema of an operator who signs in. -/
def credentialsSchema : Schema Credentials where
  read? := Credentials.ofJson?
  flaws c := requiredFlaws "username" c.username ++ requiredFlaws "password" c.password

end StudyHall
