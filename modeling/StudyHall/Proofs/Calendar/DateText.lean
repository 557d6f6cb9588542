import StudyHall.Proofs.Calendar.DayByDay
import StudyHall.Proofs.Calendar.Timestamp

/-!
# Dates as texts

A date is written with the year first and every part in its place, so while years have four digits
the order of the texts is that of the dates. No two dates have the same text, whatever their years,
since the parts can be read back one after the other.

## Main results

* `length_toText` — a date with a year of four digits takes ten characters.
* `RunsUpTo.pairwise_toText` — the texts of consecutive dates are in order.
* `toText_inj` — a text is that of one date.
-/

namespace StudyHall.Calendar.Date

open Text

/-! ## Length -/

/-- A date as text when its year has four digits. -/
theorem toText_of_fourDigits {y : Int} {m d : Nat} (year : 0 ≤ y ∧ y ≤ 9999) :
    toText ⟨y, m, d⟩ = String.ofList (fixedDigits 4 y.toNat
      ++ ('-' :: (fixedDigits 2 m ++ '-' :: fixedDigits 2 d))) := by
  simp only [toText, toChars, yearDigits, if_pos year, List.append_assoc, List.cons_append]

theorem length_toText {t : Date} (year : 0 ≤ t.year ∧ t.year ≤ 9999) : t.toText.length = 10 := by
  rw [toText_of_fourDigits year, String.length_ofList]
  simp

/-! ## Order -/

/-- While years have four digits the text of the next day is greater: the first part that changes
grows, and every part has its place. -/
theorem toText_lt_next {t : Date} (valid : t.isValid = true) (first : 0 ≤ t.year)
    (last : t.next.year ≤ 9999) : t.toText < t.next.toText := by
  obtain ⟨y, m, d⟩ := t
  obtain ⟨-, monthLast, -, dayLast⟩ := isValid_iff.mp valid
  have inMonth := monthLength_le (isLeap y) m
  unfold next at last ⊢
  simp only at first last monthLast dayLast ⊢
  split at last
  · next within =>
    have grown : fixedDigits 2 d < fixedDigits 2 (d + 1) := fixedDigits_lt (by omega) (by omega)
    rw [if_pos within, toText_of_fourDigits ⟨first, last⟩, toText_of_fourDigits ⟨first, last⟩,
      String.lt_iff, String.toList_ofList, String.toList_ofList]
    refine List.append_left_lt (List.cons_lt_cons_iff.mpr (.inr ⟨rfl, ?_⟩))
    exact List.append_left_lt (List.cons_lt_cons_iff.mpr (.inr ⟨rfl, grown⟩))
  · next lastDay =>
    split at last
    · next inYear =>
      have grown : fixedDigits 2 m < fixedDigits 2 (m + 1) := fixedDigits_lt (by omega) (by omega)
      rw [if_neg lastDay, if_pos inYear, toText_of_fourDigits ⟨first, last⟩,
        toText_of_fourDigits ⟨first, last⟩, String.lt_iff, String.toList_ofList,
        String.toList_ofList]
      refine List.append_left_lt (List.cons_lt_cons_iff.mpr (.inr ⟨rfl, ?_⟩))
      exact append_lt_append grown (by simp) _ _
    · next lastMonth =>
      simp only at last
      have grown : fixedDigits 4 y.toNat < fixedDigits 4 (y + 1).toNat :=
        fixedDigits_lt (by omega) (by omega)
      rw [if_neg lastDay, if_neg lastMonth, toText_of_fourDigits ⟨first, by omega⟩,
        toText_of_fourDigits ⟨by omega, last⟩, String.lt_iff, String.toList_ofList,
        String.toList_ofList]
      exact append_lt_append grown (by simp) _ _

/-- Consecutive dates whose years have four digits are in order as texts. -/
theorem RunsUpTo.pairwise_toText {last : Date} {dates : List Date} (runs : RunsUpTo last dates)
    (years : ∀ d ∈ dates, 0 ≤ d.year ∧ d.year ≤ 9999) :
    (dates.map toText).Pairwise (· < ·) := by
  have : Trans (fun a b : String => a < b) (fun a b : String => a < b)
      (fun a b : String => a < b) :=
    ⟨String.lt_trans⟩
  rw [← List.isChain_iff_pairwise, List.isChain_map]
  refine runs.consecutive.imp_of_mem_imp fun d e hd he following => ?_
  subst following
  exact toText_lt_next (runs.valid d hd) (years d hd).1 (years _ he).2

/-! ## One text for every date -/

/-- The text of a date is read back part by part, so dates that exist have different texts. -/
theorem toText_inj {d e : Date} (hd : d.isValid = true) (he : e.isValid = true) :
    d.toText = e.toText ↔ d = e := by
  constructor
  · intro same
    obtain ⟨dMonth, dDay⟩ := month_day_lt hd
    obtain ⟨eMonth, eDay⟩ := month_day_lt he
    have chars : d.toChars = e.toChars := String.ofList_injective same
    simp only [toChars, List.append_assoc, List.cons_append] at chars
    have years := congrArg takeYear? chars
    rw [takeYear?_yearDigits, takeYear?_yearDigits, Option.some.injEq, Prod.mk.injEq,
      List.cons.injEq] at years
    obtain ⟨year, -, afterYear⟩ := years
    have months := congrArg takePart? afterYear
    rw [takePart?_fixedDigits dMonth, takePart?_fixedDigits eMonth, Option.some.injEq,
      Prod.mk.injEq, List.cons.injEq] at months
    obtain ⟨month, -, afterMonth⟩ := months
    have spelt : Spells (fixedDigits 2 d.day) d.day := spells_fixedDigits (by decide) dDay
    rw [afterMonth] at spelt
    have day : d.day = e.day := spelt.eq (spells_fixedDigits (by decide) eDay)
    calc d = ⟨d.year, d.month, d.day⟩ := rfl
      _ = e := by rw [year, month, day]
  · rintro rfl
    rfl

end StudyHall.Calendar.Date
