import StudyHall.Proofs.Calendar.Later
import StudyHall.Proofs.Service.Launch
import StudyHall.Proofs.Service.Stranger

/-!
# The first operator signs in

Settings that describe a first operator give a service whose console that operator can enter,
provided that the lifetime which they set for tokens makes sense. It is a number of minutes, and
nothing but its being a number is checked when the settings are read. If it cannot be counted there
is no service, and if it leads beyond the representable years there is no token. A lifetime that
leads back gives tokens that have expired when they are signed: the console takes them within the
minute of grace, so those of minus one minute, and refuses all others. Before the first minute of
1970 is over there is no response to a token, unless it expires before 1970 and is none for that.

## Main results

* `TokenService.verify_at_signing` — what becomes of a token that is shown when it is signed.
* `TokenService.operator_of_sign` — what the console makes of such a token.
* `Settings.isAdmin_of_adminProfile` — the first operator may use the console.
* `Settings.letsOperatorIn_iff` — which settings let their first operator in, and when.
* `first_operator_signs_in` — what becomes of the first operator of some settings.
-/

namespace StudyHall

namespace TokenService

variable {s : TokenService} {minutes : Int} {userId : Uuid} {role : Role} {exam : Option Exam}
  {now expiry : Instant} {token : String}

/-- A token whose lifetime is counted in minutes and that is shown when it is signed. If it expires
before 1970 it is none. Otherwise there is no telling before the first minute of 1970 is over, and
after that it is accepted if it has not expired for more than the minute of grace. -/
theorem verify_at_signing (lifetime : s.lifetime = Span.seconds (60 * minutes))
    (lasts : now.after? s.lifetime = some expiry)
    (signed : s.sign userId role exam now = .ok token) :
    s.verify token now =
      if expiry.seconds < 0 then .error (.refused .invalidToken)
      else if now.seconds < 60 then .error .earlyClock
      else if -1 ≤ minutes then .ok ⟨userId, role, exam⟩
      else .error (.refused .invalidToken) := by
  by_cases minute : 60 ≤ now.seconds
  · obtain ⟨_, ends, verified⟩ := verify_of_sign signed minute
    obtain rfl := Option.some.inj (lasts.symm.trans ends)
    rw [lifetime] at lasts
    have counted := Instant.seconds_of_after?_seconds lasts
    have window : (0 ≤ expiry.seconds ∧ now.seconds ≤ expiry.seconds + 60) ↔ -1 ≤ minutes := by
      omega
    rw [verified, if_neg (Int.not_lt.mpr minute)]
    by_cases graced : -1 ≤ minutes
    · have since := (window.mpr graced).1
      rw [if_pos (window.mpr graced), if_neg (Int.not_lt.mpr since), if_pos graced]
    · rw [if_neg (fun valid => graced (window.mp valid)), if_neg graced, ite_self]
  · have early := Int.not_le.mp minute
    obtain ⟨_, ends, verified⟩ := verify_of_sign_early signed early
    obtain rfl := Option.some.inj (lasts.symm.trans ends)
    rw [verified, if_pos early]
    by_cases since : 0 ≤ expiry.seconds
    · rw [if_pos since, if_neg (Int.not_lt.mpr since)]
    · rw [if_neg since, if_pos (Int.not_le.mp since)]

/-- A signed token in the header of a request is the token of that request. -/
theorem bearer?_of_sign {r : Request} (signed : s.sign userId role exam now = .ok token)
    (carried : r.header? "authorization" = some ("Bearer " ++ token)) :
    r.bearer? = some token := by
  obtain ⟨c, rfl, -⟩ := seal_of_sign signed
  exact Request.bearer?_of_header carried fun _ => plain_of_mem_seal

/-- The console makes of a request with the token of an operator what becomes of the token. -/
theorem operator_of_sign {r : Request} (lifetime : s.lifetime = Span.seconds (60 * minutes))
    (lasts : now.after? s.lifetime = some expiry) (allowed : role.isAdmin = true)
    (signed : s.sign userId role exam now = .ok token)
    (carried : r.header? "authorization" = some ("Bearer " ++ token)) :
    s.operator r now =
      if expiry.seconds < 0 then .error (.refused .invalidToken)
      else if now.seconds < 60 then .error .earlyClock
      else if -1 ≤ minutes then .ok ⟨userId, role, exam⟩
      else .error (.refused .invalidToken) := by
  unfold operator
  rw [sender_of_bearer? (bearer?_of_sign signed carried), verify_at_signing lifetime lasts signed]
  by_cases since : expiry.seconds < 0
  · simp only [if_pos since]
  · by_cases early : now.seconds < 60
    · simp only [if_neg since, if_pos early]
    · by_cases graced : -1 ≤ minutes
      · simp only [if_neg since, if_neg early, if_pos graced, allowed, if_true]
      · simp only [if_neg since, if_neg early, if_neg graced]

end TokenService

/-! ## The account -/

/-- Whoever has the right credentials gets what comes of signing a token. -/
theorem AdminAccount.signIn_of_recognizes {a : AdminAccount} {tokens : TokenService}
    {now : Instant} :
    a.signIn tokens ⟨a.username, a.password⟩ now
      = (tokens.sign a.profile.id a.profile.role (some a.profile.primaryExam) now).map
          fun token => ⟨token, a.profile.toView⟩ := by
  have known : a.recognizes ⟨a.username, a.password⟩ = true := by
    simp only [recognizes, beq_self_eq_true, Bool.and_self]
  unfold signIn
  rw [if_pos known]
  cases tokens.sign a.profile.id a.profile.role (some a.profile.primaryExam) now <;> rfl

/-- Nobody else gets anything. -/
theorem AdminAccount.signIn_of_other {a : AdminAccount} {tokens : TokenService} {c : Credentials}
    {now : Instant} (other : c ≠ ⟨a.username, a.password⟩) :
    a.signIn tokens c now = .error (.refused .invalidCredentials) := by
  have unknown : ¬ a.recognizes c = true := by
    intro known
    simp only [recognizes, Bool.and_eq_true, beq_iff_eq] at known
    obtain ⟨username, password⟩ := c
    obtain ⟨rfl, rfl⟩ := known
    exact other rfl
  unfold signIn
  rw [if_neg unknown]

/-- The first operator may use the console. -/
theorem Settings.isAdmin_of_adminProfile {s : Settings} {now : Instant} {profile : AdminProfile}
    (described : s.adminProfile now = .ok profile) : profile.role.isAdmin = true := by
  unfold adminProfile at described
  split at described
  · cases described
  · split at described
    · cases described
    · split at described
      · cases described
      · next role allowed =>
          split at described
          · cases described
          · cases described
            exact (Option.filter_eq_some_iff.mp allowed).2

/-! ## Settings -/

/-- The account and the tokens of the console of an assembled service. -/
theorem Settings.console_of_assemble {s : Settings} {started : Instant} {reportsMetrics : Bool}
    {profile : AdminProfile} (described : s.adminProfile started = .ok profile) {service : Service}
    {d : Directory} (assembled : s.assemble started reportsMetrics = .ok (service, d)) :
    service.account = ⟨s.adminUsername, s.adminPassword, profile⟩
      ∧ service.adminTokens
        = ⟨s.jwtAdminSecret, s.appName, Span.seconds (60 * s.jwtTokenTtlMinutes.toInt)⟩ := by
  have made := made_of_assemble assembled
  have same : service.account.profile = profile :=
    Except.ok.inj (made.profile.symm.trans described)
  exact ⟨same ▸ made.credentials, made.adminTokens⟩

/-- On an assembled service the right credentials give a token for the first operator, if the end
of its lifetime is representable, and what the console makes of it depends on its lifetime and the
time. -/
theorem Settings.token_of_assemble {s : Settings} {started : Instant} {reportsMetrics : Bool}
    {profile : AdminProfile} (described : s.adminProfile started = .ok profile) {service : Service}
    {d : Directory} (assembled : s.assemble started reportsMetrics = .ok (service, d))
    {now expiry : Instant}
    (lasts : now.after? (Span.seconds (60 * s.jwtTokenTtlMinutes.toInt)) = some expiry) :
    ∃ token,
      service.account.signIn service.adminTokens ⟨s.adminUsername, s.adminPassword⟩ now
          = .ok ⟨token, profile.toView⟩
        ∧ ∀ r : Request, r.header? "authorization" = some ("Bearer " ++ token) →
          service.adminTokens.operator r now =
            if expiry.seconds < 0 then .error (.refused .invalidToken)
            else if now.seconds < 60 then .error .earlyClock
            else if -1 ≤ s.jwtTokenTtlMinutes.toInt then
              .ok ⟨profile.id, profile.role, some profile.primaryExam⟩
            else .error (.refused .invalidToken) := by
  obtain ⟨account, tokens⟩ := console_of_assemble described assembled
  have lifetime : service.adminTokens.lifetime
      = Span.seconds (60 * s.jwtTokenTtlMinutes.toInt) := by rw [tokens]
  rw [← lifetime] at lasts
  obtain ⟨token, signed⟩ :
      ∃ token, service.adminTokens.sign profile.id profile.role (some profile.primaryExam) now
        = .ok token := ⟨_, TokenService.sign_of_after? _ _ _ lasts⟩
  refine ⟨token, ?_, ?_⟩
  · rw [account, AdminAccount.signIn_of_recognizes, signed]
    rfl
  · intro r carried
    exact TokenService.operator_of_sign lifetime lasts (isAdmin_of_adminProfile described) signed
      carried

/-- On an assembled service the right credentials give no token if the end of its lifetime is not
representable. -/
theorem Settings.late_of_assemble {s : Settings} {started : Instant} {reportsMetrics : Bool}
    {profile : AdminProfile} (described : s.adminProfile started = .ok profile) {service : Service}
    {d : Directory} (assembled : s.assemble started reportsMetrics = .ok (service, d))
    {now : Instant}
    (late : now.after? (Span.seconds (60 * s.jwtTokenTtlMinutes.toInt)) = none) :
    service.account.signIn service.adminTokens ⟨s.adminUsername, s.adminPassword⟩ now
      = .error .outsideCalendar := by
  obtain ⟨account, tokens⟩ := console_of_assemble described assembled
  have unsigned : now.after? service.adminTokens.lifetime = none := by rw [tokens, late]
  rw [account, AdminAccount.signIn_of_recognizes, TokenService.sign_of_after?_none unsigned]
  rfl

/-- There is a service if the lifetime of tokens can be counted. -/
theorem Settings.exists_assemble {s : Settings} {started : Instant} {profile : AdminProfile}
    (described : s.adminProfile started = .ok profile) (reportsMetrics : Bool)
    (counted : (60 * s.jwtTokenTtlMinutes.toInt).natAbs ≤ maxLifetimeSeconds) :
    ∃ service d, s.assemble started reportsMetrics = .ok (service, d) := by
  rw [assemble_of_profile described, if_pos counted]
  exact ⟨_, _, rfl⟩

/-- A request with a token for the console. -/
def requestWith (token : String) : Request :=
  ⟨"GET", ⟨operatorsPath, []⟩, [("authorization", "Bearer " ++ token)], []⟩

/-- Whether settings let their first operator in at a time: they give a service, the credentials
that they set give a token, and the console takes the token at that time. -/
def Settings.LetsOperatorIn (s : Settings) (started now : Instant) : Prop :=
  ∃ service d a subject, s.assemble started true = .ok (service, d)
    ∧ service.account.signIn service.adminTokens ⟨s.adminUsername, s.adminPassword⟩ now = .ok a
    ∧ service.adminTokens.operator (requestWith a.accessToken) now = .ok subject

/-- That is the case exactly if the lifetime which they set can be counted, ends within the
representable years and is at least minus one minute, and the first minute of 1970 is over. -/
theorem Settings.letsOperatorIn_iff {s : Settings} {started now : Instant} {profile : AdminProfile}
    (described : s.adminProfile started = .ok profile) :
    s.LetsOperatorIn started now ↔
      (60 * s.jwtTokenTtlMinutes.toInt).natAbs ≤ maxLifetimeSeconds
        ∧ now.after? (Span.seconds (60 * s.jwtTokenTtlMinutes.toInt)) ≠ none
        ∧ -1 ≤ s.jwtTokenTtlMinutes.toInt ∧ 60 ≤ now.seconds := by
  constructor
  · rintro ⟨service, d, a, subject, assembled, signedIn, opened⟩
    have counted := (made_of_assemble assembled).counted
    have inTime : now.after? (Span.seconds (60 * s.jwtTokenTtlMinutes.toInt)) ≠ none := by
      intro late
      rw [late_of_assemble described assembled late] at signedIn
      cases signedIn
    obtain ⟨expiry, lasts⟩ := Option.ne_none_iff_exists'.mp inTime
    obtain ⟨token, given, opens⟩ := token_of_assemble described assembled lasts
    rw [given] at signedIn
    cases signedIn
    rw [opens (requestWith token) rfl] at opened
    split at opened
    · cases opened
    · split at opened
      · cases opened
      · next minute =>
          split at opened
          · next recent => exact ⟨counted, inTime, recent, Int.not_lt.mp minute⟩
          · cases opened
  · rintro ⟨counted, inTime, recent, minute⟩
    obtain ⟨service, d, assembled⟩ := exists_assemble described true counted
    obtain ⟨expiry, lasts⟩ := Option.ne_none_iff_exists'.mp inTime
    obtain ⟨token, signedIn, opens⟩ := token_of_assemble described assembled lasts
    have counted := Instant.seconds_of_after?_seconds lasts
    have since : ¬ expiry.seconds < 0 := by omega
    have opened := opens (requestWith token) rfl
    rw [if_neg since, if_neg (Int.not_lt.mpr minute), if_pos recent] at opened
    exact ⟨service, d, _, _, assembled, signedIn, opened⟩

/-- What becomes of the first operator whom settings describe. There is a service unless the
lifetime of tokens cannot be counted. On that service the right credentials, and no others, give a
token for the first operator unless its lifetime leads beyond the representable years. Shown to the
console when it is signed, that token is refused if it expires before 1970; else there is no
response to it if the first minute of 1970 is not over; and after that it opens the console if its
lifetime is at least minus one minute, and is refused if not. -/
theorem first_operator_signs_in {s : Settings} {started : Instant} {profile : AdminProfile}
    (described : s.adminProfile started = .ok profile) (reportsMetrics : Bool) :
    (¬ (60 * s.jwtTokenTtlMinutes.toInt).natAbs ≤ maxLifetimeSeconds →
        s.assemble started reportsMetrics = .error .lifetimeTooLong)
      ∧ ((60 * s.jwtTokenTtlMinutes.toInt).natAbs ≤ maxLifetimeSeconds →
        ∃ service d, s.assemble started reportsMetrics = .ok (service, d)
          ∧ (∀ c now, c ≠ ⟨s.adminUsername, s.adminPassword⟩ →
            service.account.signIn service.adminTokens c now
              = .error (.refused .invalidCredentials))
          ∧ (∀ now : Instant, now.after? (Span.seconds (60 * s.jwtTokenTtlMinutes.toInt)) = none →
            service.account.signIn service.adminTokens ⟨s.adminUsername, s.adminPassword⟩ now
              = .error .outsideCalendar)
          ∧ ∀ now expiry : Instant,
            now.after? (Span.seconds (60 * s.jwtTokenTtlMinutes.toInt)) = some expiry →
            ∃ token,
              service.account.signIn service.adminTokens ⟨s.adminUsername, s.adminPassword⟩ now
                  = .ok ⟨token, profile.toView⟩
                ∧ ∀ r : Request, r.header? "authorization" = some ("Bearer " ++ token) →
                  service.adminTokens.operator r now =
                    if expiry.seconds < 0 then .error (.refused .invalidToken)
                    else if now.seconds < 60 then .error .earlyClock
                    else if -1 ≤ s.jwtTokenTtlMinutes.toInt then
                      .ok ⟨profile.id, profile.role, some profile.primaryExam⟩
                    else .error (.refused .invalidToken)) := by
  constructor
  · intro uncounted
    rw [Settings.assemble_of_profile described, if_neg uncounted]
  · intro counted
    obtain ⟨service, d, assembled⟩ := Settings.exists_assemble described reportsMetrics counted
    refine ⟨service, d, assembled, ?others, ?late, ?inTime⟩
    case others =>
      intro c now other
      obtain ⟨account, -⟩ := Settings.console_of_assemble described assembled
      rw [account]
      exact AdminAccount.signIn_of_other other
    case late =>
      intro now late
      exact Settings.late_of_assemble described assembled late
    case inTime =>
      intro now expiry lasts
      exact Settings.token_of_assemble described assembled lasts

/-- The settings of a hall whose tokens last for some minutes. -/
def lastingHall (minutes : Int64) : Settings :=
  { hallSettings "user" "admin" with jwtTokenTtlMinutes := minutes }

/-- Its first operator. -/
def hallOperator : AdminProfile :=
  ⟨.ofNat 1, "Super Admin", "root@hall", .admin, .neetPg, .epoch,
    ["subjects.read", "subjects.write"]⟩

theorem adminProfile_lastingHall (minutes : Int64) :
    (lastingHall minutes).adminProfile .epoch = .ok hallOperator := by
  have id : Uuid.parse? (Text.trim "00000000-0000-0000-0000-000000000001") = some (.ofNat 1) := by
    decide +kernel
  have exam : Exam.parse? "NEET_PG" = some .neetPg := by decide +kernel
  have role : (Role.parse? "ADMIN").filter Role.isAdmin = some .admin := by decide +kernel
  have permissions : Text.items "subjects.read,subjects.write"
      = ["subjects.read", "subjects.write"] := by decide +kernel
  simp only [Settings.adminProfile, Settings.adminSince, lastingHall, hallSettings, id, exam, role,
    permissions, hallOperator]

theorem first_operator_signs_in_sample :
    ∃ service d token, (lastingHall (-1)).assemble .epoch true = .ok (service, d)
      ∧ service.account.signIn service.adminTokens ⟨"root", "word"⟩ ⟨60, 0, by decide⟩
        = .ok ⟨token, hallOperator.toView⟩
      ∧ service.adminTokens.operator (requestWith token) ⟨60, 0, by decide⟩
        = .ok ⟨.ofNat 1, .admin, some .neetPg⟩
      ∧ service.account.signIn service.adminTokens ⟨"root", "wood"⟩ ⟨60, 0, by decide⟩
        = .error (.refused .invalidCredentials) := by
  obtain ⟨-, started⟩ := first_operator_signs_in (adminProfile_lastingHall (-1)) true
  obtain ⟨service, d, assembled, others, -, inTime⟩ := started (by decide)
  obtain ⟨token, signedIn, opens⟩ := inTime ⟨60, 0, by decide⟩ ⟨0, 0, by decide⟩ (by decide +kernel)
  exact ⟨service, d, token, assembled, signedIn, opens (requestWith token) rfl,
    others _ _ (by decide)⟩

/-- Settings are read that keep their first operator out: with a lifetime of minus two minutes, with
one that cannot be counted, and, whatever the lifetime, in the first minute of 1970. -/
theorem first_operator_kept_out :
    (∃ s, Settings.read (("JWT_TOKEN_TTL_MINUTES", "-2") :: hallVars "user" "admin") = .ok s
        ∧ s.adminProfile .epoch = .ok hallOperator
        ∧ ¬ s.LetsOperatorIn .epoch ⟨1710084600, 0, by decide⟩)
      ∧ (∃ s, Settings.read
            (("JWT_TOKEN_TTL_MINUTES", "153722867280913") :: hallVars "user" "admin") = .ok s
        ∧ s.adminProfile .epoch = .ok hallOperator
        ∧ ¬ s.LetsOperatorIn .epoch ⟨1710084600, 0, by decide⟩)
      ∧ ∃ s, Settings.read (hallVars "user" "admin") = .ok s
        ∧ s.adminProfile .epoch = .ok hallOperator
        ∧ ¬ s.LetsOperatorIn .epoch ⟨30, 0, by decide⟩ := by
  refine ⟨⟨lastingHall (-2), rfl, adminProfile_lastingHall _, ?_⟩,
    ⟨lastingHall 153722867280913, rfl, adminProfile_lastingHall _, ?_⟩,
    ⟨lastingHall 1440, rfl, adminProfile_lastingHall _, ?_⟩⟩
  · intro letIn
    obtain ⟨-, -, recent, -⟩ :=
      (Settings.letsOperatorIn_iff (adminProfile_lastingHall _)).mp letIn
    exact absurd recent (by decide)
  · intro letIn
    obtain ⟨counted, -⟩ := (Settings.letsOperatorIn_iff (adminProfile_lastingHall _)).mp letIn
    exact absurd counted (by decide)
  · intro letIn
    obtain ⟨-, -, -, minute⟩ :=
      (Settings.letsOperatorIn_iff (adminProfile_lastingHall _)).mp letIn
    exact absurd minute (by decide)

end StudyHall
