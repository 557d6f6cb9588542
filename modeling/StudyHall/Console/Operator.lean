import StudyHall.Calendar.Instant
import StudyHall.Domain.Code
import StudyHall.Uuid

/-!
# Operators

The people who use the console: their records, what a new one needs, a change of some fields, and
the profile of the first operator, which comes from the settings.
-/

namespace StudyHall

open Text

/-- The first operator as the settings describe it. -/
structure AdminProfile where
  id : Uuid
  displayName : String
  email : String
  role : Role
  primaryExam : Exam
  createdAt : Instant
  permissions : List String
  deriving DecidableEq

/-- An operator of the console. -/
structure Operator where
  id : Uuid
  firstName : String
  lastName : String
  username : String
  email : String
  phoneNumber : String
  status : OperatorStatus
  role : OperatorRole
  createdAt : Instant
  updatedAt : Instant
  deriving DecidableEq

/-- What a new operator needs. -/
structure NewOperator where
  firstName : String
  lastName : String
  username : String
  email : String
  phoneNumber : String
  role : OperatorRole
  status : OperatorStatus
  deriving DecidableEq

/-- A change of some fields: an absent field stays as it is. -/
structure OperatorPatch where
  firstName : Option String := none
  lastName : Option String := none
  username : Option String := none
  email : Option String := none
  phoneNumber : Option String := none
  role : Option OperatorRole := none
  status : Option OperatorStatus := none
  deriving DecidableEq

/-! ## Building and changing records -/

/-- The record of a new operator. -/
def NewOperator.toOperator (new : NewOperator) (id : Uuid) (now : Instant) : Operator where
  id := id
  firstName := new.firstName
  lastName := new.lastName
  username := new.username
  email := new.email
  phoneNumber := new.phoneNumber
  status := new.status
  role := new.role
  createdAt := now
  updatedAt := now

@[simp] theorem NewOperator.id_toOperator (new : NewOperator) (id : Uuid) (now : Instant) :
    (new.toOperator id now).id = id := rfl

/-- A record after a change. -/
def OperatorPatch.apply (patch : OperatorPatch) (now : Instant) (o : Operator) : Operator :=
  { o with
    firstName := patch.firstName.getD o.firstName
    lastName := patch.lastName.getD o.lastName
    username := patch.username.getD o.username
    email := patch.email.getD o.email
    phoneNumber := patch.phoneNumber.getD o.phoneNumber
    role := patch.role.getD o.role
    status := patch.status.getD o.status
    updatedAt := now }

/-- A record after a change of its state alone. -/
def Operator.setStatus (status : OperatorStatus) (now : Instant) (o : Operator) : Operator :=
  { o with status := status, updatedAt := now }

/-! ## The first operator -/

/-- The phone number of the first operator. -/
def firstPhoneNumber : String := "+91 90000 00000"

/-- The first word of a name and the other words, single-spaced; a name without a word gives
`Admin` and `User`. -/
def splitName (full : String) : String × String :=
  match wordsOf full.toList with
  | [] => ("Admin", "User")
  | first :: rest => (String.ofList first, String.ofList (joinWith [' '] rest))

/-- A user name from a display name: dots for spaces, lower case, and one dot for two underscores
in a row. -/
def slugify (full : String) : String :=
  String.ofList (replacePair '_' '_' '.'
    (lowerChars (full.toList.map fun c => if c = ' ' then '.' else c)))

/-- The record of the first operator. -/
def AdminProfile.toOperator (p : AdminProfile) : Operator where
  id := p.id
  firstName := (splitName p.displayName).1
  lastName := (splitName p.displayName).2
  username := slugify p.displayName
  email := p.email
  phoneNumber := firstPhoneNumber
  status := .active
  role := OperatorRole.ofRole p.role
  createdAt := p.createdAt
  updatedAt := p.createdAt

end StudyHall
