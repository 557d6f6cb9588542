import StudyHall.Text.Blank
import StudyHall.Text.Lowercase

/-!
# Exams, roles and states

The closed sets of names that the service speaks: each value has one code, a text is read after
trimming it and folding ASCII case, and a text that names no value is reported as it was given.

`code` is what is shown for a value. `ofName?` is a table of its own, which lists the names that are
known once a text is trimmed and folded; `parse` accepts what people write.
-/

namespace StudyHall

open Text

/-! ## Texts that name nothing -/

/-- The sets whose names are reported with the offending text. -/
inductive CodeKind where
  | exam
  | role
  | status
  deriving DecidableEq, Repr

/-- The word for a set of names in a report. -/
def CodeKind.word : CodeKind → String
  | .exam => "exam"
  | .role => "role"
  | .status => "status"

/-- A text that names no value of its set. -/
structure UnknownCode where
  kind : CodeKind
  value : String
  deriving DecidableEq, Repr

/-- The report of a text that names no value. -/
def UnknownCode.message (e : UnknownCode) : String :=
  "invalid " ++ e.kind.word ++ ": " ++ e.value

/-! ## Exams -/

/-- The examinations that there is content for. -/
inductive Exam where
  | neetPg
  | neetUg
  | jee
  | upsc
  deriving DecidableEq, Repr

namespace Exam

/-- All examinations. -/
def all : List Exam := [.neetPg, .neetUg, .jee, .upsc]

/-- The code of an examination. -/
def code : Exam → String
  | .neetPg => "NEET_PG"
  | .neetUg => "NEET_UG"
  | .jee => "JEE"
  | .upsc => "UPSC"

/-- The name of an examination for people: its code with spaces. -/
def label (e : Exam) : String :=
  String.ofList (e.code.toList.map fun c => if c = '_' then ' ' else c)

/-- The examination of a name in capitals. -/
def ofName? : String → Option Exam
  | "NEET_PG" => some .neetPg
  | "NEET_UG" => some .neetUg
  | "JEE" => some .jee
  | "UPSC" => some .upsc
  | _ => none

/-- The examination that a text names. -/
def parse? (s : String) : Option Exam :=
  ofName? (asciiUpper (trim s))

/-- The examination that a text names, or the text. -/
def parse (s : String) : Except UnknownCode Exam :=
  match parse? s with
  | some e => .ok e
  | none => .error ⟨.exam, s⟩

end Exam

/-! ## Account roles -/

/-- The roles that a token carries. -/
inductive Role where
  | user
  | admin
  | superAdmin
  deriving DecidableEq, Repr

namespace Role

/-- All account roles. -/
def all : List Role := [.user, .admin, .superAdmin]

/-- The code of a role. -/
def code : Role → String
  | .user => "USER"
  | .admin => "ADMIN"
  | .superAdmin => "SUPER_ADMIN"

/-- Whether a role may use the console. -/
def isAdmin : Role → Bool
  | .user => false
  | .admin => true
  | .superAdmin => true

/-- The role of a name in capitals; the highest one has two names. -/
def ofName? : String → Option Role
  | "USER" => some .user
  | "ADMIN" => some .admin
  | "SUPER_ADMIN" => some .superAdmin
  | "SUPERADMIN" => some .superAdmin
  | _ => none

/-- The role that a text names. -/
def parse? (s : String) : Option Role :=
  ofName? (asciiUpper (trim s))

/-- The role that a text names, or the text. -/
def parse (s : String) : Except UnknownCode Role :=
  match parse? s with
  | some r => .ok r
  | none => .error ⟨.role, s⟩

end Role

/-! ## Operator roles -/

/-- The roles of the operators of the console. -/
inductive OperatorRole where
  | superAdmin
  | admin
  | manager
  | cashier
  deriving DecidableEq, Repr

namespace OperatorRole

/-- All operator roles. -/
def all : List OperatorRole := [.superAdmin, .admin, .manager, .cashier]

/-- The code of an operator role. -/
def code : OperatorRole → String
  | .superAdmin => "superadmin"
  | .admin => "admin"
  | .manager => "manager"
  | .cashier => "cashier"

/-- The operator role of a name in small letters. -/
def ofName? : String → Option OperatorRole
  | "superadmin" => some .superAdmin
  | "admin" => some .admin
  | "manager" => some .manager
  | "cashier" => some .cashier
  | _ => none

/-- The operator role that a text names. -/
def parse? (s : String) : Option OperatorRole :=
  ofName? (asciiLower (trim s))

/-- The operator role that a text names, or the text. -/
def parse (s : String) : Except UnknownCode OperatorRole :=
  match parse? s with
  | some r => .ok r
  | none => .error ⟨.role, s⟩

/-- The operator role of an account role. -/
def ofRole : Role → OperatorRole
  | .superAdmin => .superAdmin
  | .admin => .admin
  | .user => .admin

end OperatorRole

/-! ## States of an operator -/

/-- The states of an operator's account. -/
inductive OperatorStatus where
  | active
  | inactive
  | invited
  | suspended
  deriving DecidableEq, Repr

namespace OperatorStatus

/-- All states. -/
def all : List OperatorStatus := [.active, .inactive, .invited, .suspended]

/-- The code of a state. -/
def code : OperatorStatus → String
  | .active => "active"
  | .inactive => "inactive"
  | .invited => "invited"
  | .suspended => "suspended"

/-- The state of a name in small letters. -/
def ofName? : String → Option OperatorStatus
  | "active" => some .active
  | "inactive" => some .inactive
  | "invited" => some .invited
  | "suspended" => some .suspended
  | _ => none

/-- The state that a text names. -/
def parse? (s : String) : Option OperatorStatus :=
  ofName? (asciiLower (trim s))

/-- The state that a text names, or the text. -/
def parse (s : String) : Except UnknownCode OperatorStatus :=
  match parse? s with
  | some t => .ok t
  | none => .error ⟨.status, s⟩

end OperatorStatus

end StudyHall
