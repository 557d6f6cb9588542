import StudyHall.Proofs.Console.Listing
import StudyHall.Proofs.Text.Lowercase

/-!
# Searching for a part of a user name

A listing can be asked for the operators whose user name holds a text. The text and the name are
put into lower case, each as a whole, and then the one is looked for in the other. So a text that
stands in the name letter by letter is found, with one exception: a capital sigma at the edge of the
text may end a word in the text and stand within a word of the name, or the other way round, and
then its two small forms differ. Whoever types the first letters of a name in capitals, just as it
was entered, may thus get no answer.

## Main results

* `part_found_or_sigma_turned` — a part of a name finds its holder, unless the cut turns a sigma.
* `first_letters_unfound` — the exception occurs.
-/

namespace StudyHall.Directory

open Text

variable {d : Directory} {f : Filter}

/-- A filter by user name alone accepts whoever has the text in the name, in lower case. -/
theorem fits_of_held {o : Operator} {n : String} (named : f.username = some n)
    (anyStatus : f.statuses = []) (anyRole : f.role = none)
    (held : lowerChars n.toList <:+: lowerChars o.username.toList) : f.Fits o where
  status := .inl anyStatus
  role r asked := by
    rw [anyRole] at asked
    cases asked
  username m asked := by
    rw [named] at asked
    cases asked
    exact .inr (by simpa only [lowercase, String.toList_ofList] using held)

/-- In every directory, whoever has a text in the user name, letter by letter, is among the matches
of a listing that asks for this text alone, unless a capital sigma at the edge of the text changes
its small form where the text is cut out of the name. -/
theorem part_found_or_sigma_turned (d : Directory) (id : Uuid) (u : Operator)
    (present : d.get? id = some u) (f : Filter) (before n after : String)
    (named : f.username = some n) (anyStatus : f.statuses = []) (anyRole : f.role = none)
    (held : u.username = before ++ n ++ after) :
    u ∈ d.matched f ∨ TurnsSigma before.toList n.toList after.toList := by
  by_cases turned : TurnsSigma before.toList n.toList after.toList
  · exact .inr turned
  · have part := lowerBetween_isInfix before.toList n.toList after.toList
    rw [lowerBetween_eq_lowerChars_iff.mpr turned, ← String.toList_append, ← String.toList_append,
      ← held] at part
    exact .inl (mem_matched_iff.mpr ⟨fits_of_held named anyStatus anyRole part, id, present⟩)

/-- An operator with a sigma within the user name. -/
def staff : NewOperator :=
  ⟨"Front", "Desk", "ΠΡΟΣΩΠΙΚΟ", "staff@x", "1", .admin, .active⟩

/-- A directory with this operator alone. -/
def staffOnly : Directory :=
  (initial none).run [(Clock.steady .epoch, .create (.ofNat 1) staff)]

theorem get?_staffOnly :
    staffOnly.get? (.ofNat 1) = some (staff.toOperator (.ofNat 1) .epoch) := by
  decide +kernel

/-- A part of the name that begins with the sigma. -/
theorem part_found_or_sigma_turned_sample :
    staff.toOperator (.ofNat 1) .epoch ∈ staffOnly.matched { username := some "ΣΩΠ" } := by
  have keeps : lowerBetween "ΠΡΟ".toList.reverse "ΣΩΠ".toList "ΙΚΟ".toList
      = lowerChars "ΣΩΠ".toList := by
    decide +kernel
  have found := part_found_or_sigma_turned staffOnly (.ofNat 1) _ get?_staffOnly
    { username := some "ΣΩΠ" } "ΠΡΟ" "ΣΩΠ" "ΙΚΟ" rfl rfl rfl (by decide)
  exact found.resolve_right (lowerBetween_eq_lowerChars_iff.mp keeps)

/-- The first letters of the name, up to the sigma, do not find it: alone they are a word that ends
in a sigma. -/
theorem first_letters_unfound :
    staffOnly.get? (.ofNat 1) = some (staff.toOperator (.ofNat 1) .epoch)
      ∧ staff.username = "" ++ "ΠΡΟΣ" ++ "ΩΠΙΚΟ"
      ∧ (staffOnly.list { username := some "ΠΡΟΣ" }).info.total = 0
      ∧ staffOnly.matched { username := some "ΠΡΟΣ" } = [] := by
  have none : (staffOnly.list { username := some "ΠΡΟΣ" }).info.total = 0 := by
    rw [total_list]
    decide +kernel
  exact ⟨get?_staffOnly, by decide, none, List.eq_nil_of_length_eq_zero none⟩

end StudyHall.Directory
