import StudyHall.Auth.Account
import StudyHall.Console.Dashboard
import StudyHall.Console.Directory
import StudyHall.Http.Message
import StudyHall.Settings.Profile

/-!
# Launching the service

What the service needs to know for its whole life, made from the settings: the two token services
with one issuer and one lifetime, the account of the first operator, the dashboard and the origins
that browsers may call from. The directory starts with the first operator alone. A service that is
open to the star as an origin is not launched.
-/

namespace StudyHall

/-- What the service knows for its whole life. -/
structure Service where
  environment : Environment
  origins : List String
  learnerTokens : TokenService
  adminTokens : TokenService
  account : AdminAccount
  dashboard : Dashboard
  /-- Whether figures are collected and shown. -/
  reportsMetrics : Bool

/-- Why the service does not start. -/
inductive LaunchFault where
  /-- The first operator cannot be made from the settings. -/
  | settings (cause : SettingsError)
  /-- The lifetime of tokens cannot be counted. -/
  | lifetimeTooLong
  /-- The star is among the origins. -/
  | wildcardOrigin
  deriving DecidableEq, Repr

/-- The origins that can stand in a header. -/
def usableOrigins (origins : List String) : List String :=
  origins.filter fun o => o.toList.all isHeaderChar

/-- The service that settings describe, with the directory that it starts with. -/
def Settings.assemble (s : Settings) (now : Instant) (reportsMetrics : Bool) :
    Except LaunchFault (Service × Directory) :=
  match s.adminProfile now with
  | .error e => .error (.settings e)
  | .ok profile =>
      let minutes := s.jwtTokenTtlMinutes.toInt
      match TokenService.ofMinutes? s.jwtUserSecret s.appName minutes,
          TokenService.ofMinutes? s.jwtAdminSecret s.appName minutes with
      | some learnerTokens, some adminTokens =>
          .ok
            ({ environment := s.env
               origins := usableOrigins s.origins
               learnerTokens := learnerTokens
               adminTokens := adminTokens
               account := ⟨s.adminUsername, s.adminPassword, profile⟩
               dashboard := ⟨profile.primaryExam⟩
               reportsMetrics := reportsMetrics },
              Directory.seeded profile)
      | _, _ => .error .lifetimeTooLong

/-- The service of some settings, ready for requests, with the directory that it starts with. -/
def Settings.launch (s : Settings) (now : Instant) (reportsMetrics : Bool) :
    Except LaunchFault (Service × Directory) :=
  match s.assemble now reportsMetrics with
  | .error e => .error e
  | .ok (service, directory) =>
      if service.origins.contains "*" then .error .wildcardOrigin else .ok (service, directory)

namespace Settings

variable {s : Settings} {now : Instant} {reportsMetrics : Bool}

/-- With a profile of the first operator, the one thing that stands in the way of a service is a
lifetime of tokens that cannot be counted. -/
theorem assemble_of_profile {profile : AdminProfile}
    (described : s.adminProfile now = .ok profile) :
    s.assemble now reportsMetrics
      = if (60 * s.jwtTokenTtlMinutes.toInt).natAbs ≤ maxLifetimeSeconds then
          .ok
            ({ environment := s.env
               origins := usableOrigins s.origins
               learnerTokens :=
                 ⟨s.jwtUserSecret, s.appName, Span.seconds (60 * s.jwtTokenTtlMinutes.toInt)⟩
               adminTokens :=
                 ⟨s.jwtAdminSecret, s.appName, Span.seconds (60 * s.jwtTokenTtlMinutes.toInt)⟩
               account := ⟨s.adminUsername, s.adminPassword, profile⟩
               dashboard := ⟨profile.primaryExam⟩
               reportsMetrics := reportsMetrics },
              Directory.seeded profile)
        else .error .lifetimeTooLong := by
  unfold assemble TokenService.ofMinutes?
  rw [described]
  by_cases counted : (60 * s.jwtTokenTtlMinutes.toInt).natAbs ≤ maxLifetimeSeconds
  · simp only [if_pos counted]
  · simp only [if_neg counted]

/-- A service that is assembled has a profile of the first operator. -/
theorem profile_of_assemble {service : Service} {d : Directory}
    (assembled : s.assemble now reportsMetrics = .ok (service, d)) :
    ∃ profile, s.adminProfile now = .ok profile := by
  unfold assemble at assembled
  split at assembled
  · cases assembled
  · next profile described => exact ⟨profile, described⟩

/-- What is launched is what was assembled, unless the star is among its origins. -/
theorem launch_eq_ok_iff {service : Service} {d : Directory} :
    s.launch now reportsMetrics = .ok (service, d) ↔
      s.assemble now reportsMetrics = .ok (service, d) ∧ "*" ∉ service.origins := by
  unfold launch
  cases assembled : s.assemble now reportsMetrics with
  | error e => simp
  | ok built =>
      obtain ⟨own, directory⟩ := built
      by_cases star : "*" ∈ own.origins
      · simp only [List.contains_eq_mem, star, decide_true, if_true, reduceCtorEq, false_iff]
        rintro ⟨same, free⟩
        cases same
        exact free star
      · simp only [List.contains_eq_mem, star, decide_false, Bool.false_eq_true, if_false]
        constructor
        · intro same
          cases same
          exact ⟨rfl, star⟩
        · rintro ⟨same, -⟩
          exact same

end Settings

end StudyHall
