import StudyHall.Proofs.Auth.TokenRoundTrip
import StudyHall.Service.Answer
import StudyHall.Service.Launch

/-!
# What a launched service is made of

A service is launched from settings once, and what it then is can be read off the settings: its two
token services have one issuer and one lifetime, the origins that it lets in are those listed that
can stand in a header, and it starts with its first operator alone.

## Main results

* `made_of_launch` — every part of a launched service, as its settings give it.
* `contains_of_launch` — the origins that a launched service lets in.
* `sign_hallToken`, `verify_hallToken` — a token of the service that a hall of given secrets
  launches, which theorems about tokens are shown at.
-/

namespace StudyHall

namespace Settings

/-- Whether settings let an origin in: it is listed and can stand in a header. -/
def letsIn (s : Settings) (origin : String) : Bool :=
  s.origins.contains origin && origin.toList.all isHeaderChar

/-- The parts of a service and the directory that it starts with, as settings give them. -/
structure Makes (s : Settings) (started : Instant) (reportsMetrics : Bool) (service : Service)
    (d : Directory) : Prop where
  profile : s.adminProfile started = .ok service.account.profile
  credentials : service.account = ⟨s.adminUsername, s.adminPassword, service.account.profile⟩
  /-- The lifetime of tokens can be counted. -/
  counted : (60 * s.jwtTokenTtlMinutes.toInt).natAbs ≤ maxLifetimeSeconds
  learnerTokens : service.learnerTokens
    = ⟨s.jwtUserSecret, s.appName, Span.seconds (60 * s.jwtTokenTtlMinutes.toInt)⟩
  adminTokens : service.adminTokens
    = ⟨s.jwtAdminSecret, s.appName, Span.seconds (60 * s.jwtTokenTtlMinutes.toInt)⟩
  environment : service.environment = s.env
  origins : service.origins = usableOrigins s.origins
  dashboard : service.dashboard = ⟨service.account.profile.primaryExam⟩
  figures : service.reportsMetrics = reportsMetrics
  /-- The first operator is alone. -/
  directory : d = Directory.seeded service.account.profile

section
variable {s : Settings} {started : Instant} {reportsMetrics : Bool} {service : Service}
  {d : Directory}

theorem made_of_assemble (assembled : s.assemble started reportsMetrics = .ok (service, d)) :
    s.Makes started reportsMetrics service d := by
  obtain ⟨profile, described⟩ := profile_of_assemble assembled
  rw [assemble_of_profile described] at assembled
  split at assembled
  · next counted =>
      cases assembled
      exact
        { profile := described
          credentials := rfl
          counted := counted
          learnerTokens := rfl
          adminTokens := rfl
          environment := rfl
          origins := rfl
          dashboard := rfl
          figures := rfl
          directory := rfl }
  · cases assembled

theorem made_of_launch (launched : s.launch started reportsMetrics = .ok (service, d)) :
    s.Makes started reportsMetrics service d :=
  made_of_assemble (launch_eq_ok_iff.mp launched).1

/-- A launched service lets in the origins that its settings let in, and the star is none of
them. -/
theorem contains_of_launch (launched : s.launch started reportsMetrics = .ok (service, d)) :
    (∀ origin, service.origins.contains origin = s.letsIn origin) ∧ s.letsIn "*" = false := by
  have listed (origin : String) : service.origins.contains origin = s.letsIn origin := by
    rw [(made_of_launch launched).origins, Bool.eq_iff_iff]
    simp [usableOrigins, letsIn]
  refine ⟨listed, ?_⟩
  rw [← listed]
  simpa using (launch_eq_ok_iff.mp launched).2

end

end Settings

/-! ## A hall and its guests -/

/-- What a service with the given secrets is launched from. -/
def hallVars (learner admin : String) : List (String × String) :=
  [ ("APP_NAME", "hall"), ("APP_VERSION", "1"), ("HTTP_PORT", "80"), ("PG_URL", "pg"),
    ("JWT_USER_SECRET", learner), ("JWT_ADMIN_SECRET", admin), ("ADMIN_USERNAME", "root"),
    ("ADMIN_PASSWORD", "word"), ("ADMIN_EMAIL", "root@hall") ]

/-- The settings that are read from them. -/
def hallSettings (learner admin : String) : Settings where
  appName := "hall"
  appVersion := "1"
  env := .development
  httpPort := 80
  logLevel := "info"
  pgUrl := "pg"
  pgPoolMax := 10
  jwtUserSecret := learner
  jwtAdminSecret := admin
  jwtTokenTtlMinutes := 1440
  adminUsername := "root"
  adminPassword := "word"
  adminEmail := "root@hall"
  adminDisplayName := "Super Admin"
  adminUserId := "00000000-0000-0000-0000-000000000001"
  adminPrimaryExam := "NEET_PG"
  adminRole := "ADMIN"
  adminPermissions := "subjects.read,subjects.write"
  adminCreatedAt := none
  allowedOrigins := "http://localhost:3000"
  metricsEnabled := true

theorem read_hallVars (learner admin : String) :
    Settings.read (hallVars learner admin) = .ok (hallSettings learner admin) := rfl

/-! ### Tokens of a hall -/

/-- The token service of a secret with the usual lifetime of a day. -/
def hallTokens (secret : String) : TokenService :=
  ⟨secret, "hall", Span.seconds 86400⟩

theorem tokens_of_launch_hall {learner admin : String} {service : Service} {d : Directory}
    (launched : (hallSettings learner admin).launch .epoch true = .ok (service, d)) :
    service.learnerTokens = hallTokens learner ∧ service.adminTokens = hallTokens admin := by
  have minutes : 60 * (1440 : Int64).toInt = 86400 := by decide
  have made := Settings.made_of_launch launched
  have learnerTokens := made.learnerTokens
  have adminTokens := made.adminTokens
  rw [hallSettings, minutes] at learnerTokens adminTokens
  exact ⟨learnerTokens, adminTokens⟩

/-- The claims of a learner with the role of an operator, for the first day of 1970. -/
def hallClaims : Claims :=
  ⟨(Uuid.ofNat 7).toText, .admin, none, "hall", 0, 86400⟩

/-- A token of these claims. -/
def hallToken (secret : String) : String :=
  (hallTokens secret).seal (tokenPart tokenHeader) (tokenPart hallClaims.toJson)

theorem sign_hallToken (secret : String) :
    (hallTokens secret).sign (.ofNat 7) .admin none .epoch = .ok (hallToken secret) := by
  have lasts : Instant.epoch.after? (hallTokens secret).lifetime
      = some ⟨86400, 0, by decide⟩ := by
    show Instant.epoch.after? (Span.seconds 86400) = _
    decide
  rw [TokenService.sign_of_after? _ _ _ lasts]
  rfl

/-- The token is accepted as soon as the first minute of 1970 is over. -/
theorem verify_hallToken (secret : String) :
    (hallTokens secret).verify (hallToken secret) firstMinute
      = .ok ⟨.ofNat 7, .admin, none⟩ := by
  have bearer : Uuid.parse? hallClaims.userId = some (.ofNat 7) := Uuid.parse?_toText (.ofNat 7)
  unfold hallToken
  rw [TokenService.verify_seal rfl ⟨by decide, by decide⟩ ⟨by decide, by decide⟩ bearer (by decide)]
  exact if_pos ⟨rfl, by decide, by decide⟩

/-! ### A plain request -/

/-- A request without headers and content, for a service without a database. -/
def plainCall (method path : String) : Call :=
  ⟨⟨method, ⟨path.toList, []⟩, [], []⟩, .epoch, .unreachable, .ofNat 2, .ofNat 3, .free⟩

end StudyHall
