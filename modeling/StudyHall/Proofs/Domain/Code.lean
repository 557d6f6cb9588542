import StudyHall.Domain.Code
import StudyHall.Proofs.Text.Pieces

/-!
# What people write for a code

A text names a value if, without the blanks around it and with the letters of ASCII in one case, it
is the code of the value. The readers have a table of names of their own, and find exactly the
values that are named.

## Main results

* `Exam.ofName?_eq_some_iff`, `Role.ofName?_eq_some_iff`, `OperatorRole.ofName?_eq_some_iff`,
  `OperatorStatus.ofName?_eq_some_iff` — the table of names against the codes.
* `Exam.parse?_eq_some_iff`, `Role.parse?_eq_some_iff`, `OperatorRole.parse?_eq_some_iff`,
  `OperatorStatus.parse?_eq_some_iff` — what is read as a value.
* `Exam.parse_eq_error_iff`, `Role.parse_eq_error_iff`, `OperatorRole.parse_eq_error_iff`,
  `OperatorStatus.parse_eq_error_iff` — what is refused, and how.
-/

namespace StudyHall

open Text

/-- A text names an exam by its code, in any case and with blanks around it. -/
def Exam.NamedBy (text : String) (e : Exam) : Prop :=
  asciiUpper (trim text) = e.code

/-- A text names a role by its code, in any case and with blanks around it; the highest role has a
second name. -/
def Role.NamedBy (text : String) (r : Role) : Prop :=
  asciiUpper (trim text) = r.code ∨ asciiUpper (trim text) = "SUPERADMIN" ∧ r = .superAdmin

/-- A text names a role of operators by its code, in any case and with blanks around it. -/
def OperatorRole.NamedBy (text : String) (r : OperatorRole) : Prop :=
  asciiLower (trim text) = r.code

/-- A text names a state of operators by its code, in any case and with blanks around it. -/
def OperatorStatus.NamedBy (text : String) (t : OperatorStatus) : Prop :=
  asciiLower (trim text) = t.code

/-! ## Names of values -/

/-- The one table of names lists for each exam its code in the other table. -/
theorem Exam.ofName?_eq_some_iff {name : String} {e : Exam} :
    Exam.ofName? name = some e ↔ name = e.code := by
  unfold Exam.ofName?
  split <;> cases e <;> simp_all [Exam.code]

/-- Besides the codes the highest role has a second name. -/
theorem Role.ofName?_eq_some_iff {name : String} {r : Role} :
    Role.ofName? name = some r ↔ name = r.code ∨ name = "SUPERADMIN" ∧ r = .superAdmin := by
  unfold Role.ofName?
  split <;> cases r <;> simp_all [Role.code]

theorem OperatorRole.ofName?_eq_some_iff {name : String} {r : OperatorRole} :
    OperatorRole.ofName? name = some r ↔ name = r.code := by
  unfold OperatorRole.ofName?
  split <;> cases r <;> simp_all [OperatorRole.code]

theorem OperatorStatus.ofName?_eq_some_iff {name : String} {t : OperatorStatus} :
    OperatorStatus.ofName? name = some t ↔ name = t.code := by
  unfold OperatorStatus.ofName?
  split <;> cases t <;> simp_all [OperatorStatus.code]

/-! ## What is read -/

theorem Exam.parse_eq_ok_iff {text : String} {e : Exam} :
    Exam.parse text = .ok e ↔ Exam.parse? text = some e := by
  unfold Exam.parse
  cases Exam.parse? text <;> simp

theorem Exam.parse_eq_error_iff {text : String} {e : UnknownCode} :
    Exam.parse text = .error e ↔ Exam.parse? text = none ∧ e = ⟨.exam, text⟩ := by
  unfold Exam.parse
  cases Exam.parse? text <;> simp [eq_comm]

theorem Role.parse_eq_ok_iff {text : String} {r : Role} :
    Role.parse text = .ok r ↔ Role.parse? text = some r := by
  unfold Role.parse
  cases Role.parse? text <;> simp

theorem Role.parse_eq_error_iff {text : String} {e : UnknownCode} :
    Role.parse text = .error e ↔ Role.parse? text = none ∧ e = ⟨.role, text⟩ := by
  unfold Role.parse
  cases Role.parse? text <;> simp [eq_comm]

theorem OperatorRole.parse_eq_ok_iff {text : String} {r : OperatorRole} :
    OperatorRole.parse text = .ok r ↔ OperatorRole.parse? text = some r := by
  unfold OperatorRole.parse
  cases OperatorRole.parse? text <;> simp

theorem OperatorRole.parse_eq_error_iff {text : String} {e : UnknownCode} :
    OperatorRole.parse text = .error e ↔ OperatorRole.parse? text = none ∧ e = ⟨.role, text⟩ := by
  unfold OperatorRole.parse
  cases OperatorRole.parse? text <;> simp [eq_comm]

theorem OperatorStatus.parse_eq_ok_iff {text : String} {t : OperatorStatus} :
    OperatorStatus.parse text = .ok t ↔ OperatorStatus.parse? text = some t := by
  unfold OperatorStatus.parse
  cases OperatorStatus.parse? text <;> simp

theorem OperatorStatus.parse_eq_error_iff {text : String} {e : UnknownCode} :
    OperatorStatus.parse text = .error e
      ↔ OperatorStatus.parse? text = none ∧ e = ⟨.status, text⟩ := by
  unfold OperatorStatus.parse
  cases OperatorStatus.parse? text <;> simp [eq_comm]

theorem Exam.parse?_eq_some_iff {text : String} {e : Exam} :
    Exam.parse? text = some e ↔ e.NamedBy text :=
  Exam.ofName?_eq_some_iff

/-- The code of an exam names it. -/
theorem Exam.parse_code (e : Exam) : Exam.parse e.code = .ok e := by
  have visible : e.code.toList.any isBlank = false := by cases e <;> decide
  rw [Exam.parse_eq_ok_iff, Exam.parse?_eq_some_iff, Exam.NamedBy, trim_of_visible visible]
  cases e <;> decide

theorem Exam.parse?_eq_none_iff {text : String} :
    Exam.parse? text = none ↔ ∀ e : Exam, ¬ e.NamedBy text := by
  simp only [Option.eq_none_iff_forall_ne_some, ne_eq, Exam.parse?_eq_some_iff]

theorem Role.parse?_eq_some_iff {text : String} {r : Role} :
    Role.parse? text = some r ↔ r.NamedBy text :=
  Role.ofName?_eq_some_iff

theorem OperatorRole.parse?_eq_some_iff {text : String} {r : OperatorRole} :
    OperatorRole.parse? text = some r ↔ r.NamedBy text :=
  OperatorRole.ofName?_eq_some_iff

theorem OperatorRole.parse?_eq_none_iff {text : String} :
    OperatorRole.parse? text = none ↔ ∀ r : OperatorRole, ¬ r.NamedBy text := by
  simp only [Option.eq_none_iff_forall_ne_some, ne_eq, OperatorRole.parse?_eq_some_iff]

theorem OperatorStatus.parse?_eq_some_iff {text : String} {t : OperatorStatus} :
    OperatorStatus.parse? text = some t ↔ t.NamedBy text :=
  OperatorStatus.ofName?_eq_some_iff

theorem OperatorStatus.parse?_eq_none_iff {text : String} :
    OperatorStatus.parse? text = none ↔ ∀ t : OperatorStatus, ¬ t.NamedBy text := by
  simp only [Option.eq_none_iff_forall_ne_some, ne_eq, OperatorStatus.parse?_eq_some_iff]

theorem OperatorStatus.parse?_ne_none_iff {text : String} :
    OperatorStatus.parse? text ≠ none ↔ ∃ t : OperatorStatus, t.NamedBy text := by
  simp only [Option.ne_none_iff_exists', OperatorStatus.parse?_eq_some_iff]

end StudyHall
