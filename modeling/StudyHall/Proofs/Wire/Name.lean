import StudyHall.Proofs.Json.Record
import StudyHall.Wire.Codes

/-!
# Names in documents and codes

The names in documents are made of identifiers, the codes are written out one by one. The two agree
for every value of the six types that have both, and no two values of a type share a name, so a
value is read back from its name.

## Main results

* `byName?_eq_some_iff` — a name leads to the value that has it.
* `Exam.wireName_eq_code`, `Role.wireName_eq_code`, … — a name in documents is the code.
* `Exam.ofJson?_eq_some_iff`, `Role.ofJson?_eq_some_iff` — what is read from a document.
-/

namespace StudyHall

/-! ## Values by their names -/

/-- Where every value is found by its own name, a name leads to the value that has it. -/
theorem byName?_eq_some_iff {α : Type} {values : List α} {nameOf : α → String}
    (own : ∀ a, byName? values nameOf (nameOf a) = some a) {name : String} {a : α} :
    byName? values nameOf name = some a ↔ name = nameOf a := by
  constructor
  · intro found
    have named := List.find?_some found
    exact (beq_iff_eq.mp named).symm
  · rintro rfl
    exact own a

/-- So it is when a document is read. -/
theorem Json.code?_byName?_eq_some_iff {α : Type} {values : List α} {nameOf : α → String}
    (own : ∀ a, byName? values nameOf (nameOf a) = some a) {j : Json} {a : α} :
    j.code? (byName? values nameOf) = some a ↔ j.name? = some (nameOf a) := by
  rw [Json.code?_eq_some_iff]
  constructor
  · rintro ⟨name, known, found⟩
    rw [known, (byName?_eq_some_iff own).mp found]
  · intro known
    exact ⟨nameOf a, known, own a⟩

/-! ## Exams and account roles -/

theorem Exam.byName?_wireName (e : Exam) : byName? all wireName e.wireName = some e := by
  cases e <;> rfl

theorem Exam.wireName_eq_code (e : Exam) : e.wireName = e.code := by
  cases e <;> rfl

theorem Exam.ofJson?_eq_some_iff {j : Json} {e : Exam} :
    Exam.ofJson? j = some e ↔ j.name? = some e.wireName :=
  Json.code?_byName?_eq_some_iff Exam.byName?_wireName

theorem Role.byName?_wireName (r : Role) : byName? all wireName r.wireName = some r := by
  cases r <;> rfl

theorem Role.wireName_eq_code (r : Role) : r.wireName = r.code := by
  cases r <;> rfl

theorem Role.ofJson?_eq_some_iff {j : Json} {r : Role} :
    Role.ofJson? j = some r ↔ j.name? = some r.wireName :=
  Json.code?_byName?_eq_some_iff Role.byName?_wireName

/-! ## Operators -/

theorem OperatorRole.byName?_wireName (r : OperatorRole) :
    byName? all wireName r.wireName = some r := by
  cases r <;> rfl

theorem OperatorRole.wireName_eq_code (r : OperatorRole) : r.wireName = r.code := by
  cases r <;> rfl

theorem OperatorStatus.byName?_wireName (t : OperatorStatus) :
    byName? all wireName t.wireName = some t := by
  cases t <;> rfl

theorem OperatorStatus.wireName_eq_code (t : OperatorStatus) : t.wireName = t.code := by
  cases t <;> rfl

/-! ## Figures -/

theorem Metric.byName?_wireName (m : Metric) : byName? all wireName m.wireName = some m := by
  cases m <;> rfl

theorem Metric.wireName_eq_code (m : Metric) : m.wireName = m.code := by
  cases m <;> rfl

theorem Window.byName?_wireName (w : Window) : byName? all wireName w.wireName = some w := by
  cases w <;> rfl

theorem Window.wireName_eq_code (w : Window) : w.wireName = w.code := by
  cases w <;> rfl

end StudyHall
