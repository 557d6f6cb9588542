import StudyHall.Settings.Variable
import StudyHall.Text.Blank
import StudyHall.Text.Lowercase

/-!
# Settings

The settings of the service, read from named texts such as the environment of a process.

The texts are read in order and the first fault wins: a variable that was given before, or a text
that denotes no value of its kind. Only then are variables looked for that must be given. Names
are compared in lower case, and a name that is no variable is passed over.

## Main definitions

* `Assignment` is a variable with a value of its kind; `value?` looks one up.
* `assignments` reads the texts, and `Settings.ofAssignments` fills in what was not given.
* `Settings.read` does both.
-/

namespace StudyHall

open Text

/-! ## Faults -/

/-- Why settings are refused. -/
inductive SettingsError where
  /-- A variable that must be given is not. -/
  | missing (v : Variable)
  /-- A variable is given twice. -/
  | duplicate (v : Variable)
  /-- The text given under a name denotes no value. -/
  | invalidValue (fault : ValueFault) (name raw : String)
  /-- The identifier of the first operator is none. -/
  | adminId (raw : String)
  /-- The exam of the first operator is none. -/
  | adminExam (raw : String)
  /-- The role of the first operator is none that may use the console. -/
  | adminRole (raw : String)
  /-- The age of the first operator is no time. -/
  | adminCreatedAt (raw : String)
  deriving DecidableEq, Repr

/-- The wording of a fault in a numeral. -/
def numeralReason : NumeralError → String
  | .empty => "cannot parse integer from empty string"
  | .invalidDigit => "invalid digit found in string"
  | .tooLarge => "number too large to fit in target type"
  | .tooSmall => "number too small to fit in target type"

/-- The wording of a text that denotes no value. -/
def ValueFault.message (name raw : String) : ValueFault → String
  | .numeral e =>
      numeralReason e ++ " while parsing value '" ++ raw ++ "' provided by " ++ name
  | .notTruthValue =>
      "provided string was not \x60true\x60 or \x60false\x60 while parsing value '" ++ raw
        ++ "' provided by " ++ name
  | .notEnvironment =>
      "unknown variant \x60" ++ raw ++ "\x60, expected \x60development\x60 or \x60production\x60"

/-- The wording of a refusal. -/
def SettingsError.message : SettingsError → String
  | .missing v => "environment: missing value for field " ++ v.name
  | .duplicate v => "environment: duplicate field \x60" ++ v.name ++ "\x60"
  | .invalidValue fault name raw => "environment: " ++ fault.message name raw
  | .adminId raw => "ADMIN_USER_ID is not a valid UUID: " ++ raw
  | .adminExam raw => "ADMIN_PRIMARY_EXAM is not a known exam: " ++ raw
  | .adminRole raw => "ADMIN_ROLE must be ADMIN or SUPER_ADMIN, got " ++ raw
  | .adminCreatedAt raw => "ADMIN_CREATED_AT is not an RFC 3339 timestamp: " ++ raw

/-! ## Assignments -/

/-- A variable with a value of its kind. -/
abbrev Assignment := (v : Variable) × v.kind.Value

/-- The value given to a variable. -/
def value? (v : Variable) : List Assignment → Option v.kind.Value
  | [] => none
  | a :: rest => if h : a.1 = v then some (h ▸ a.2) else value? v rest

/-- Whether a variable is given a value. -/
def isGiven (v : Variable) (given : List Assignment) : Bool :=
  given.any fun a => a.1 == v

/-- The assignments of named texts, after those already read. -/
def assignmentsFrom (given : List Assignment) :
    List (String × String) → Except SettingsError (List Assignment)
  | [] => .ok given
  | (name, raw) :: rest =>
      match Variable.ofName? (lowercase name) with
      | none => assignmentsFrom given rest
      | some v =>
          if isGiven v given then .error (.duplicate v)
          else
            match v.kind.read raw with
            | .ok x => assignmentsFrom (⟨v, x⟩ :: given) rest
            | .error fault => .error (.invalidValue fault name raw)

/-- The assignments of named texts. -/
def assignments (vars : List (String × String)) : Except SettingsError (List Assignment) :=
  assignmentsFrom [] vars

/-! ## Settings -/

/-- The settings of the service. -/
structure Settings where
  appName : String
  appVersion : String
  env : Environment
  httpPort : UInt16
  logLevel : String
  pgUrl : String
  pgPoolMax : UInt32
  jwtUserSecret : String
  jwtAdminSecret : String
  jwtTokenTtlMinutes : Int64
  adminUsername : String
  adminPassword : String
  adminEmail : String
  adminDisplayName : String
  adminUserId : String
  adminPrimaryExam : String
  adminRole : String
  adminPermissions : String
  adminCreatedAt : Option String
  allowedOrigins : String
  metricsEnabled : Bool
  deriving DecidableEq

namespace Settings

/-- The value of a variable that must be given. -/
def require (v : Variable) (given : List Assignment) : Except SettingsError v.kind.Value :=
  match value? v given with
  | some x => .ok x
  | none => .error (.missing v)

/-- The settings of assignments, with the usual value for what may be left out; of the variables
that must be given, the first one missing is reported. -/
def ofAssignments (given : List Assignment) : Except SettingsError Settings := do
  let appName ← require .appName given
  let appVersion ← require .appVersion given
  let httpPort ← require .httpPort given
  let pgUrl ← require .pgUrl given
  let jwtUserSecret ← require .jwtUserSecret given
  let jwtAdminSecret ← require .jwtAdminSecret given
  let adminUsername ← require .adminUsername given
  let adminPassword ← require .adminPassword given
  let adminEmail ← require .adminEmail given
  .ok
    { appName := appName
      appVersion := appVersion
      env := (value? .env given).getD .development
      httpPort := httpPort
      logLevel := (value? .logLevel given).getD "info"
      pgUrl := pgUrl
      pgPoolMax := (value? .pgPoolMax given).getD (10 : UInt32)
      jwtUserSecret := jwtUserSecret
      jwtAdminSecret := jwtAdminSecret
      jwtTokenTtlMinutes := (value? .jwtTokenTtlMinutes given).getD (1440 : Int64)
      adminUsername := adminUsername
      adminPassword := adminPassword
      adminEmail := adminEmail
      adminDisplayName := (value? .adminDisplayName given).getD "Super Admin"
      adminUserId :=
        (value? .adminUserId given).getD "00000000-0000-0000-0000-000000000001"
      adminPrimaryExam := (value? .adminPrimaryExam given).getD "NEET_PG"
      adminRole := (value? .adminRole given).getD "ADMIN"
      adminPermissions := (value? .adminPermissions given).getD "subjects.read,subjects.write"
      adminCreatedAt := value? .adminCreatedAt given
      allowedOrigins := (value? .allowedOrigins given).getD "http://localhost:3000"
      metricsEnabled := (value? .metricsEnabled given).getD true }

/-- The settings that named texts denote. -/
def read (vars : List (String × String)) : Except SettingsError Settings :=
  match assignments vars with
  | .ok given => ofAssignments given
  | .error e => .error e

/-- The origins from which browsers may call the service. -/
def origins (s : Settings) : List String :=
  items s.allowedOrigins

end Settings

end StudyHall
