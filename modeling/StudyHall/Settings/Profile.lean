import StudyHall.Calendar.Timestamp
import StudyHall.Console.Operator
import StudyHall.Settings.Basic

/-!
# The first operator

The profile of the first operator as the settings describe it. Identifier, exam, role and age are
checked in this order and the first fault wins.
-/

namespace StudyHall

open Text

namespace Settings

/-- The age of the first operator: now, unless the settings tell a time. -/
def adminSince (s : Settings) (now : Instant) : Except SettingsError Instant :=
  match s.adminCreatedAt with
  | none => .ok now
  | some raw =>
      if trim raw = "" then .ok now
      else
        match Instant.parseStrict? (trim raw) with
        | some t => .ok t
        | none => .error (.adminCreatedAt (trim raw))

/-- The profile of the first operator. -/
def adminProfile (s : Settings) (now : Instant) : Except SettingsError AdminProfile :=
  match Uuid.parse? (trim s.adminUserId) with
  | none => .error (.adminId s.adminUserId)
  | some id =>
      match Exam.parse? s.adminPrimaryExam with
      | none => .error (.adminExam s.adminPrimaryExam)
      | some exam =>
          match (Role.parse? s.adminRole).filter Role.isAdmin with
          | none => .error (.adminRole s.adminRole)
          | some role =>
              match s.adminSince now with
              | .error e => .error e
              | .ok since =>
                  .ok ⟨id, s.adminDisplayName, s.adminEmail, role, exam, since,
                    items s.adminPermissions⟩

end Settings

end StudyHall
