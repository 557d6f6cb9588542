import StudyHall.Proofs.Calendar.StrictTimestamp
import StudyHall.Proofs.Domain.Code
import StudyHall.Proofs.Service.FirstOperator
import StudyHall.Proofs.Service.Forbidden
import StudyHall.Proofs.Text.Pieces
import StudyHall.Proofs.UuidForms

/-!
# Whom settings describe as the first operator

Four texts of the settings are interpreted one after the other: the identifier, the exam, the role,
and the time from which on there is the account. Each of them has a grammar of its own, and blanks
around it do not count. The first text that means nothing is told, as it was given or, for the time,
without the blanks.

Only a role that may use the console is accepted. So nothing is forbidden to whoever signs with a
token of that role.

## Main results

* `Settings.adminProfile_eq_ok_iff` — whom the settings describe.
* `Settings.adminProfile_eq_error_iff` — why they describe nobody.
* `Settings.profile_of_settings` — both, with what follows for the role and the time.
-/

namespace StudyHall

open Text

namespace Settings

variable {s : Settings} {now : Instant}

/-! ## The time of the account -/

/-- The time from which on there is the account: now, unless the settings tell one. -/
inductive Since (s : Settings) (now : Instant) : Instant → Prop
  | untold (absent : s.adminCreatedAt = none) : Since s now now
  | blank {raw : String} (given : s.adminCreatedAt = some raw) (nothing : trim raw = "") :
      Since s now now
  | told {raw : String} {t : Instant} (given : s.adminCreatedAt = some raw)
      (something : trim raw ≠ "") (denotes : Instant.Denotes (trim raw).toList t) : Since s now t

theorem adminSince_eq_ok_iff {t : Instant} : s.adminSince now = .ok t ↔ s.Since now t := by
  unfold adminSince
  cases given : s.adminCreatedAt with
  | none =>
      constructor
      · intro same
        cases same
        exact .untold given
      · intro since
        cases since with
        | untold => rfl
        | blank other | told other => cases given.symm.trans other
  | some raw =>
      by_cases nothing : trim raw = ""
      · simp only [nothing, if_true]
        constructor
        · intro same
          cases same
          exact .blank given nothing
        · intro since
          cases since with
          | untold | blank => rfl
          | told other something =>
              cases given.symm.trans other
              exact absurd nothing something
      · simp only [nothing, if_false]
        constructor
        · intro read
          split at read
          · next denoted =>
              cases read
              exact .told given nothing (Instant.parseStrict?_eq_some_iff.mp denoted)
          · cases read
        · intro since
          cases since with
          | untold other => cases given.symm.trans other
          | blank other blank =>
              cases given.symm.trans other
              exact absurd blank nothing
          | told other something denotes =>
              cases given.symm.trans other
              rw [Instant.parseStrict?_eq_some_iff.mpr denotes]

/-- What is told as the time is none. -/
theorem adminSince_eq_error_iff {e : SettingsError} :
    s.adminSince now = .error e ↔ ∃ raw, s.adminCreatedAt = some raw ∧ trim raw ≠ ""
      ∧ (∀ t, ¬ Instant.Denotes (trim raw).toList t) ∧ e = .adminCreatedAt (trim raw) := by
  unfold adminSince
  cases given : s.adminCreatedAt with
  | none => simp
  | some raw =>
      simp only [Option.some.injEq, exists_eq_left', ← Instant.parseStrict?_eq_some_iff]
      by_cases nothing : trim raw = ""
      · simp [nothing]
      · cases read : Instant.parseStrict? (trim raw) with
        | none => simp [nothing, eq_comm]
        | some t => simp [nothing]

/-! ## The first operator -/

/-- Settings describe a first operator: the identifier, the exam, the role and the time are those
that their texts mean, the role may use the console, and everything else is taken over. -/
structure Describes (s : Settings) (now : Instant) (profile : AdminProfile) : Prop where
  id : Uuid.Denotes (trim s.adminUserId).toList profile.id
  exam : profile.primaryExam.NamedBy s.adminPrimaryExam
  role : profile.role.NamedBy s.adminRole
  mayUseConsole : profile.role.isAdmin = true
  since : s.Since now profile.createdAt
  displayName : profile.displayName = s.adminDisplayName
  email : profile.email = s.adminEmail
  permissions : profile.permissions = items s.adminPermissions

/-- Why settings describe nobody: the first of four texts that means nothing. -/
inductive FirstFault (s : Settings) : SettingsError → Prop
  | id (nobody : ∀ u, ¬ Uuid.Denotes (trim s.adminUserId).toList u) :
      FirstFault s (.adminId s.adminUserId)
  | exam {u : Uuid} (id : Uuid.Denotes (trim s.adminUserId).toList u)
      (none : ∀ e : Exam, ¬ e.NamedBy s.adminPrimaryExam) :
      FirstFault s (.adminExam s.adminPrimaryExam)
  | role {u : Uuid} {e : Exam} (id : Uuid.Denotes (trim s.adminUserId).toList u)
      (exam : e.NamedBy s.adminPrimaryExam)
      (none : ∀ r : Role, r.NamedBy s.adminRole → r.isAdmin = false) :
      FirstFault s (.adminRole s.adminRole)
  | since {u : Uuid} {e : Exam} {r : Role} {raw : String}
      (id : Uuid.Denotes (trim s.adminUserId).toList u) (exam : e.NamedBy s.adminPrimaryExam)
      (role : r.NamedBy s.adminRole) (mayUseConsole : r.isAdmin = true)
      (given : s.adminCreatedAt = some raw) (something : trim raw ≠ "")
      (none : ∀ t, ¬ Instant.Denotes (trim raw).toList t) :
      FirstFault s (.adminCreatedAt (trim raw))

theorem filter_isAdmin_eq_some_iff {text : String} {r : Role} :
    (Role.parse? text).filter Role.isAdmin = some r ↔ r.NamedBy text ∧ r.isAdmin = true := by
  rw [Option.filter_eq_some_iff, Role.parse?_eq_some_iff]

theorem filter_isAdmin_eq_none_iff {text : String} :
    (Role.parse? text).filter Role.isAdmin = none
      ↔ ∀ r : Role, r.NamedBy text → r.isAdmin = false := by
  simp only [Option.eq_none_iff_forall_ne_some, ne_eq, filter_isAdmin_eq_some_iff, not_and,
    Bool.not_eq_true]

theorem adminProfile_eq_ok_iff {profile : AdminProfile} :
    s.adminProfile now = .ok profile ↔ s.Describes now profile := by
  constructor
  · intro described
    unfold adminProfile at described
    split at described
    · cases described
    · next u id =>
        split at described
        · cases described
        · next e exam =>
            split at described
            · cases described
            · next r role =>
                obtain ⟨named, may⟩ := filter_isAdmin_eq_some_iff.mp role
                split at described
                · cases described
                · next t since =>
                    cases described
                    exact
                      { id := Uuid.parse?_eq_some_iff.mp id
                        exam := Exam.parse?_eq_some_iff.mp exam
                        role := named
                        mayUseConsole := may
                        since := adminSince_eq_ok_iff.mp since
                        displayName := rfl
                        email := rfl
                        permissions := rfl }
  · intro d
    unfold adminProfile
    simp only [Uuid.parse?_eq_some_iff.mpr d.id, Exam.parse?_eq_some_iff.mpr d.exam,
      filter_isAdmin_eq_some_iff.mpr ⟨d.role, d.mayUseConsole⟩, adminSince_eq_ok_iff.mpr d.since,
      ← d.displayName, ← d.email, ← d.permissions]

/-- The checks are made in their order, and the first that fails is told. -/
theorem adminProfile_eq_error_iff {e : SettingsError} :
    s.adminProfile now = .error e ↔ s.FirstFault e := by
  constructor
  · intro failed
    unfold adminProfile at failed
    split at failed
    · next none =>
        cases failed
        exact .id (Uuid.parse?_eq_none_iff.mp none)
    · next u id =>
        have denoted := Uuid.parse?_eq_some_iff.mp id
        split at failed
        · next none =>
            cases failed
            exact .exam denoted (Exam.parse?_eq_none_iff.mp none)
        · next e exam =>
            have examined := Exam.parse?_eq_some_iff.mp exam
            split at failed
            · next none =>
                cases failed
                exact .role denoted examined (filter_isAdmin_eq_none_iff.mp none)
            · next r role =>
                obtain ⟨named, may⟩ := filter_isAdmin_eq_some_iff.mp role
                split at failed
                · next since =>
                    cases failed
                    obtain ⟨raw, given, something, none, rfl⟩ := adminSince_eq_error_iff.mp since
                    exact .since denoted examined named may given something none
                · cases failed
  · intro flaw
    unfold adminProfile
    cases flaw with
    | id nobody => simp only [Uuid.parse?_eq_none_iff.mpr nobody]
    | exam id none =>
        simp only [Uuid.parse?_eq_some_iff.mpr id, Exam.parse?_eq_none_iff.mpr none]
    | role id exam none =>
        simp only [Uuid.parse?_eq_some_iff.mpr id, Exam.parse?_eq_some_iff.mpr exam,
          filter_isAdmin_eq_none_iff.mpr none]
    | since id exam role may given something none =>
        have since : s.adminSince now = .error (.adminCreatedAt (trim _)) :=
          adminSince_eq_error_iff.mpr ⟨_, given, something, none, rfl⟩
        simp only [Uuid.parse?_eq_some_iff.mpr id, Exam.parse?_eq_some_iff.mpr exam,
          filter_isAdmin_eq_some_iff.mpr ⟨role, may⟩, since]

/-- There is one time of the account at most. -/
theorem Since.eq {t u : Instant} (first : s.Since now t) (second : s.Since now u) : t = u := by
  have same := (adminSince_eq_ok_iff.mpr first).symm.trans (adminSince_eq_ok_iff.mpr second)
  exact Except.ok.inj same

/-- The text of an instant in any zone, with blanks around it, tells that instant. -/
theorem since_of_localChars {t : Instant} {east : Int} {places : Nat} {before after : List Char}
    (zone : east.natAbs < 1440) (first : 0 ≤ (t.fieldsIn east).date.year)
    (last : (t.fieldsIn east).date.year ≤ 9999) (few : places ≤ 9)
    (exact : t.nanos % 10 ^ (9 - places) = 0) (front : ∀ c ∈ before, isBlank c = true)
    (back : ∀ c ∈ after, isBlank c = true)
    (given : s.adminCreatedAt
      = some (String.ofList (before ++ t.localChars east places ++ after))) : s.Since now t := by
  have denotes := t.denotes_localChars zone first last few exact
  have trimmed : trimChars (before ++ t.localChars east places ++ after)
      = t.localChars east places :=
    trimChars_padded front (t.visible_localChars east places) back
  refine .told given ?_ ?_
  · rw [trim, String.toList_ofList, trimmed, ← String.ofList_nil, ne_eq, String.ofList_inj]
    exact denotes.ne_nil
  · rw [trim, String.toList_ofList, String.toList_ofList, trimmed]
    exact denotes

/-- Settings describe a first operator exactly if each of four texts means something, and then the
one whom they mean; else the first text that means nothing is told. The role may use the console, so
that nothing is forbidden to whoever signs with a token of that role; and the time may be told in
any zone and in as many places as it needs. -/
theorem profile_of_settings (s : Settings) (now : Instant) :
    ((∃ profile, s.adminProfile now = .ok profile) ↔
        (∃ u, Uuid.Denotes (trim s.adminUserId).toList u)
          ∧ (∃ e : Exam, e.NamedBy s.adminPrimaryExam)
          ∧ (∃ r : Role, r.NamedBy s.adminRole ∧ r.isAdmin = true)
          ∧ ∀ raw, s.adminCreatedAt = some raw → trim raw ≠ "" →
              ∃ t, Instant.Denotes (trim raw).toList t)
      ∧ (∀ profile, s.adminProfile now = .ok profile ↔ s.Describes now profile)
      ∧ (∀ e, s.adminProfile now = .error e ↔ s.FirstFault e)
      ∧ (∀ profile, s.adminProfile now = .ok profile → profile.role.isAdmin = true
          ∧ ∀ (service : Service) (c : Call) (st st' : State) (response : Response)
              (statements : List Statement),
            (∀ subject, service.adminTokens.sender c.request c.now = .ok subject →
              subject.role = profile.role) →
            service.respond c st = some (response, statements, st') → response.status ≠ 403)
      ∧ ∀ (t : Instant) (east : Int) (places : Nat) (before after : List Char),
          east.natAbs < 1440 → 0 ≤ (t.fieldsIn east).date.year →
          (t.fieldsIn east).date.year ≤ 9999 → places ≤ 9 → t.nanos % 10 ^ (9 - places) = 0 →
          (∀ c ∈ before, isBlank c = true) → (∀ c ∈ after, isBlank c = true) →
          s.adminCreatedAt = some (String.ofList (before ++ t.localChars east places ++ after)) →
          s.Since now t
            ∧ ∀ profile, s.adminProfile now = .ok profile → profile.createdAt = t := by
  refine ⟨?described, fun _ => adminProfile_eq_ok_iff, fun _ => adminProfile_eq_error_iff,
    ?allowed, ?anyZone⟩
  case described =>
    constructor
    · rintro ⟨profile, described⟩
      have d := adminProfile_eq_ok_iff.mp described
      refine ⟨⟨_, d.id⟩, ⟨_, d.exam⟩, ⟨_, d.role, d.mayUseConsole⟩, ?_⟩
      intro raw given something
      cases d.since with
      | untold absent => cases given.symm.trans absent
      | blank again nothing =>
          cases given.symm.trans again
          exact absurd nothing something
      | told again _ denotes =>
          cases given.symm.trans again
          exact ⟨_, denotes⟩
    · rintro ⟨⟨u, id⟩, ⟨e, exam⟩, ⟨r, role, may⟩, time⟩
      cases described : s.adminProfile now with
      | ok profile => exact ⟨profile, rfl⟩
      | error fault =>
          cases adminProfile_eq_error_iff.mp described with
          | id nobody => exact absurd id (nobody u)
          | exam _ none => exact absurd exam (none e)
          | role _ _ none =>
              rw [none r role] at may
              cases may
          | since _ _ _ _ given something none =>
              obtain ⟨t, denotes⟩ := time _ given something
              exact absurd denotes (none t)
  case allowed =>
    intro profile described
    have may := (adminProfile_eq_ok_iff.mp described).mayUseConsole
    refine ⟨may, fun service c st st' response statements role answered => ?_⟩
    exact Service.status_ne_forbidden answered fun subject known => by rw [role subject known, may]
  case anyZone =>
    intro t east places before after zone first last few exact front back given
    have since : s.Since now t := since_of_localChars zone first last few exact front back given
    exact ⟨since, fun profile described => (adminProfile_eq_ok_iff.mp described).since.eq since⟩

/-- Settings with a role in small letters, and with a time in an inserted second, told in India. -/
def paddedSettings : Settings :=
  { hallSettings "user" "admin" with
    adminRole := " super_admin "
    adminCreatedAt := some " 2017-01-01T05:29:60.25+05:30\n" }

/-- The inserted second at the end of 2016, a quarter of it gone. -/
def insertedInstant : Instant := ⟨1483228799, 1250000000, by decide⟩

/-- They describe a first operator of the highest role, who has been there since that second, in
which it was still 2016 in Greenwich. -/
theorem profile_of_settings_sample :
    ∃ profile, paddedSettings.adminProfile .epoch = .ok profile
      ∧ profile.role.isAdmin = true ∧ profile.createdAt = insertedInstant := by
  obtain ⟨-, described, -, allowed, anyZone⟩ := profile_of_settings paddedSettings .epoch
  have id : Uuid.Denotes (trim paddedSettings.adminUserId).toList (.ofNat 1) :=
    Uuid.parse?_eq_some_iff.mp (by decide +kernel)
  have exam : Exam.neetPg.NamedBy paddedSettings.adminPrimaryExam :=
    Exam.parse?_eq_some_iff.mp (by decide +kernel)
  have role : Role.superAdmin.NamedBy paddedSettings.adminRole :=
    Role.parse?_eq_some_iff.mp (by decide +kernel)
  obtain ⟨since, lasting⟩ := anyZone insertedInstant 330 2 [' '] ['\n'] (by decide)
    (by decide +kernel) (by decide +kernel) (by decide) (by decide)
    (List.forall_mem_singleton.mpr rfl) (List.forall_mem_singleton.mpr rfl) (by decide +kernel)
  have known := (described ⟨.ofNat 1, "Super Admin", "root@hall", .superAdmin, .neetPg,
    insertedInstant, items paddedSettings.adminPermissions⟩).mpr
      { id := id
        exam := exam
        role := role
        mayUseConsole := rfl
        since := since
        displayName := rfl
        email := rfl
        permissions := rfl }
  exact ⟨_, known, (allowed _ known).1, lasting _ known⟩

end Settings

end StudyHall
