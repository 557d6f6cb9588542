import StudyHall.Text.Numeral

/-!
# Environment variables

The variables that configure the service, the kind of value each one holds, and the texts that
denote such a value. A variable is known by its lower-case name.

The value of a variable is typed by its kind, so that a text that was read once need not be read
again.
-/

namespace StudyHall

open Text

/-! ## Environments -/

/-- Where the service runs. -/
inductive Environment where
  | development
  | production
  deriving DecidableEq, Repr

namespace Environment

/-- The name of an environment. -/
def code : Environment → String
  | .development => "development"
  | .production => "production"

/-- The environment of a name; case matters. -/
def ofCode? (s : String) : Option Environment :=
  [Environment.development, .production].find? fun e => e.code == s

end Environment

/-! ## Kinds of values -/

/-- What a variable holds. -/
inductive ValueKind where
  | text
  | environment
  | portNumber
  | poolSize
  | minutes
  | switch
  deriving DecidableEq, Repr

/-- The values of a kind. -/
abbrev ValueKind.Value : ValueKind → Type
  | .text => String
  | .environment => Environment
  | .portNumber => UInt16
  | .poolSize => UInt32
  | .minutes => Int64
  | .switch => Bool

/-- Why a text denotes no value of its kind. -/
inductive ValueFault where
  | numeral (cause : NumeralError)
  | notTruthValue
  | notEnvironment
  deriving DecidableEq, Repr

/-- The value that a text denotes. -/
def ValueKind.read : (kind : ValueKind) → String → Except ValueFault kind.Value
  | .text, raw => .ok raw
  | .environment, raw =>
      match Environment.ofCode? raw with
      | some e => .ok e
      | none => .error .notEnvironment
  | .portNumber, raw =>
      match readUnsigned maxWord16 raw.toList with
      | .ok n => .ok (UInt16.ofNat n)
      | .error e => .error (.numeral e)
  | .poolSize, raw =>
      match readUnsigned maxWord32 raw.toList with
      | .ok n => .ok (UInt32.ofNat n)
      | .error e => .error (.numeral e)
  | .minutes, raw =>
      match readSigned maxInt64 raw.toList with
      | .ok i => .ok (Int64.ofInt i)
      | .error e => .error (.numeral e)
  | .switch, raw =>
      if raw = "true" then .ok true
      else if raw = "false" then .ok false
      else .error .notTruthValue

/-! ## Variables -/

/-- The variables that configure the service. -/
inductive Variable where
  | appName
  | appVersion
  | env
  | httpPort
  | logLevel
  | pgUrl
  | pgPoolMax
  | jwtUserSecret
  | jwtAdminSecret
  | jwtTokenTtlMinutes
  | adminUsername
  | adminPassword
  | adminEmail
  | adminDisplayName
  | adminUserId
  | adminPrimaryExam
  | adminRole
  | adminPermissions
  | adminCreatedAt
  | allowedOrigins
  | metricsEnabled
  deriving DecidableEq, Repr

namespace Variable

/-- All variables. -/
def all : List Variable :=
  [ .appName, .appVersion, .env, .httpPort, .logLevel, .pgUrl, .pgPoolMax, .jwtUserSecret,
    .jwtAdminSecret, .jwtTokenTtlMinutes, .adminUsername, .adminPassword, .adminEmail,
    .adminDisplayName, .adminUserId, .adminPrimaryExam, .adminRole, .adminPermissions,
    .adminCreatedAt, .allowedOrigins, .metricsEnabled ]

/-- The lower-case name of a variable. -/
def name : Variable → String
  | .appName => "app_name"
  | .appVersion => "app_version"
  | .env => "env"
  | .httpPort => "http_port"
  | .logLevel => "log_level"
  | .pgUrl => "pg_url"
  | .pgPoolMax => "pg_pool_max"
  | .jwtUserSecret => "jwt_user_secret"
  | .jwtAdminSecret => "jwt_admin_secret"
  | .jwtTokenTtlMinutes => "jwt_token_ttl_minutes"
  | .adminUsername => "admin_username"
  | .adminPassword => "admin_password"
  | .adminEmail => "admin_email"
  | .adminDisplayName => "admin_display_name"
  | .adminUserId => "admin_user_id"
  | .adminPrimaryExam => "admin_primary_exam"
  | .adminRole => "admin_role"
  | .adminPermissions => "admin_permissions"
  | .adminCreatedAt => "admin_created_at"
  | .allowedOrigins => "allowed_origins"
  | .metricsEnabled => "metrics_enabled"

/-- The kind of value that a variable holds. -/
def kind : Variable → ValueKind
  | .env => .environment
  | .httpPort => .portNumber
  | .pgPoolMax => .poolSize
  | .jwtTokenTtlMinutes => .minutes
  | .metricsEnabled => .switch
  | _ => .text

/-- The variable of a lower-case name. -/
def ofName? (s : String) : Option Variable :=
  all.find? fun v => v.name == s

end Variable

end StudyHall
