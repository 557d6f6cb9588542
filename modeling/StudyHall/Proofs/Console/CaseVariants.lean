import StudyHall.Proofs.Console.LastWrite
import StudyHall.Proofs.Console.Refusals
import StudyHall.Proofs.Text.Lowercase

/-!
# Names that differ in case

A new operator is refused if the user name or the e-mail address is in use, in whatever case. Two
texts count as one if they are equal in lower case, each taken as a whole. This agrees with the case
of single letters, in every alphabet and for every letter, except for one: a capital sigma at the
end of a word becomes a final sigma in lower case, and a small sigma that stands there does not. So
a name in capitals with a sigma at its end leaves room for the same name with a small sigma there.

## Main results

* `variant_refused_or_sigma_apart` — a name whose letters are those of a name in use is refused,
  unless a capital sigma at the end of a word stands against a small one; and with such a sigma the
  two names are never taken for one.
* `small_sigma_accepted` — the exception occurs, for user names and for e-mail addresses.
-/

namespace StudyHall.Directory

open Text

variable {d : Directory} {field : Operator → String}

/-- A text of the same letters as a field of some record is in use, or a sigma is apart. -/
theorem has_or_sigmaApart {id : Uuid} {u : Operator} (present : d.get? id = some u) {text : String}
    (letters : SameLetters (field u).toList text.toList) :
    d.Has field text ∨ SigmaApart (field u).toList text.toList := by
  by_cases apart : SigmaApart (field u).toList text.toList
  · exact .inr apart
  · exact .inl ⟨id, u, present, (lowercase_eq_iff letters).mpr apart⟩

/-- Texts of the same letters are taken for one exactly if no sigma is apart. -/
theorem sameIgnoringCase_iff {x y : String} (letters : SameLetters x.toList y.toList) :
    sameIgnoringCase x y = true ↔ ¬ SigmaApart x.toList y.toList := by
  rw [← lowercase_eq_iff letters, sameIgnoringCase, Bool.or_eq_true, beq_iff_eq, beq_iff_eq]
  exact or_iff_right_of_imp (congrArg lowercase)

/-- In every directory, a creation whose user name has, letter by letter, the small forms of a user
name in use is refused for it, unless at some place only one of the two names has a capital sigma
and this place is the end of a word. The same holds of e-mail addresses where the user name is not
in use. With such a place, and only then, two texts of the same letters are not taken for one. -/
theorem variant_refused_or_sigma_apart (d : Directory) (id : Uuid) (u : Operator)
    (present : d.get? id = some u) (key : Uuid) (now : Instant) (new : NewOperator) :
    (SameLetters u.username.toList new.username.toList →
        d.create key now new = .error .duplicateUsername
          ∨ SigmaApart u.username.toList new.username.toList)
      ∧ (SameLetters u.email.toList new.email.toList → ¬ d.Has Operator.username new.username →
          d.create key now new = .error .duplicateEmail
            ∨ SigmaApart u.email.toList new.email.toList)
      ∧ ∀ x y : String, SameLetters x.toList y.toList →
          (sameIgnoringCase x y = true ↔ ¬ SigmaApart x.toList y.toList) := by
  refine ⟨fun letters => ?_, fun letters free => ?_, fun x y => sameIgnoringCase_iff⟩
  · refine (has_or_sigmaApart present letters).imp_left fun inUse => ?_
    exact (create_eq_error_iff now).mpr (.usernameInUse inUse)
  · refine (has_or_sigmaApart present letters).imp_left fun inUse => ?_
    exact (create_eq_error_iff now).mpr (.emailInUse free inUse)

/-! ## Names with a sigma -/

instance (xs ys : List Char) : Decidable (SameLetters xs ys) :=
  inferInstanceAs (Decidable (List.Forall₂ _ xs ys))

/-- An operator whose user name and address end a word in a capital sigma. -/
def till : NewOperator :=
  ⟨"Till", "One", "ΤΑΜΙΑΣ", "ΤΑΜΙΑΣ@x", "1", .cashier, .active⟩

/-- A directory with this operator alone. -/
def tillOnly : Directory :=
  (initial none).run [(Clock.steady .epoch, .create (.ofNat 1) till)]

theorem get?_tillOnly : tillOnly.get? (.ofNat 1) = some (till.toOperator (.ofNat 1) .epoch) := by
  decide +kernel

/-- Other letters than the sigma may be in any case. -/
theorem variant_refused_or_sigma_apart_sample :
    tillOnly.create (.ofNat 2) (minute 2) { till with username := "ταμιαΣ" }
        = .error .duplicateUsername
      ∧ tillOnly.create (.ofNat 2) (minute 2) { till with username := "till", email := "ταΜΙαΣ@X" }
          = .error .duplicateEmail := by
  have ends (new : NewOperator) := variant_refused_or_sigma_apart tillOnly (.ofNat 1) _
    get?_tillOnly (.ofNat 2) (minute 2) new
  obtain ⟨byName, -, together⟩ := ends { till with username := "ταμιαΣ" }
  obtain ⟨-, byEmail, -⟩ := ends { till with username := "till", email := "ταΜΙαΣ@X" }
  have name : SameLetters "ΤΑΜΙΑΣ".toList "ταμιαΣ".toList := by decide +kernel
  have email : SameLetters "ΤΑΜΙΑΣ@x".toList "ταΜΙαΣ@X".toList := by decide +kernel
  have free : ¬ tillOnly.Has Operator.username "till" := by
    rw [← taken_none_iff]
    decide +kernel
  exact ⟨(byName name).resolve_right ((together _ _ name).mp (by decide +kernel)),
    (byEmail email free).resolve_right ((together _ _ email).mp (by decide +kernel))⟩

/-- A small sigma at the end of the name, where the name in use has a capital one, is accepted, and
so is one at the end of the first part of the address. -/
theorem small_sigma_accepted :
    let name : NewOperator := { till with username := "ταμιασ", email := "till@x" }
    let email : NewOperator := { till with username := "till", email := "ταμιασ@x" }
    tillOnly.get? (.ofNat 1) = some (till.toOperator (.ofNat 1) .epoch)
      ∧ SameLetters till.username.toList name.username.toList
      ∧ (tillOnly.create (.ofNat 2) (minute 2) name).isOk = true
      ∧ SameLetters till.email.toList email.email.toList
      ∧ (tillOnly.create (.ofNat 2) (minute 2) email).isOk = true := by
  decide +kernel

end StudyHall.Directory
