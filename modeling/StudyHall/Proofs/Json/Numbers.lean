import StudyHall.Json.Printer
import StudyHall.Json.Reader

/-!
# Numbers read back

A number that is written is read back as it was: its sign, its digits before and after the point,
and its power of ten. The reader takes as many digits as there are, so what follows a number may
not look like more of it; `AfterNumber` says what that means.

## Main results

* `spanDigits_append` — the reader stops after the digits that were written.
* `scanWhole_natDigits`, `scanFraction_append`, `scanExponent_append` — the parts of a number.
* `lexeme?_renderNumber` — a written number is one lexeme, the number itself.
-/

namespace StudyHall.Json

open Text

/-! ## Digits -/

/-- The digits of a natural number, without leading zeros. -/
def digitsOf (n : Nat) : List (Fin 10) :=
  if n < 10 then [lastDigit n] else digitsOf (n / 10) ++ [lastDigit n]
termination_by n
decreasing_by omega

theorem natDigits_eq (n : Nat) : natDigits n = fractionChars (digitsOf n) := by
  induction n using natDigits.induct with
  | case1 n small =>
      rw [natDigits, digitsOf, if_pos small, if_pos small]
      simp only [fractionChars, lastDigit, List.map_cons, List.map_nil, Nat.mod_eq_of_lt small]
  | case2 n large ih =>
      rw [natDigits, digitsOf, if_neg large, if_neg large, ih]
      simp only [fractionChars, lastDigit, List.map_append, List.map_cons, List.map_nil]

theorem valueOf_digitsOf (n : Nat) : valueOf (digitsOf n) = n := by
  induction n using digitsOf.induct with
  | case1 n small =>
      rw [digitsOf, if_pos small]
      simp only [valueOf, digitsValue, lastDigit, List.map_cons, List.map_nil, List.foldl_cons,
        List.foldl_nil]
      omega
  | case2 n large ih =>
      rw [digitsOf, if_neg large]
      simp only [valueOf, digitsValue, lastDigit, List.map_append, List.map_cons, List.map_nil,
        List.foldl_append, List.foldl_cons, List.foldl_nil] at ih ⊢
      rw [ih]
      omega

/-- The first digit is a zero only where it is the only one. -/
theorem digitsOf_cases (n : Nat) :
    ∃ d ds, digitsOf n = d :: ds ∧ (d.val = 0 → n = 0) ∧ (n = 0 → ds = []) := by
  induction n using digitsOf.induct with
  | case1 n small =>
      rw [digitsOf, if_pos small]
      refine ⟨lastDigit n, [], rfl, ?_, fun _ => rfl⟩
      simp only [lastDigit]
      omega
  | case2 n large ih =>
      obtain ⟨d, ds, eq, zero, -⟩ := ih
      rw [digitsOf, if_neg large, eq]
      refine ⟨d, ds ++ [lastDigit n], rfl, fun h => ?_, fun h => ?_⟩
      · have := zero h
        omega
      · omega

theorem digitsOf_leading {n : Nat} {d : Fin 10} {ds : List (Fin 10)} (h : digitsOf n = d :: ds) :
    ¬ (d.val = 0 ∧ ds ≠ []) := by
  rintro ⟨zero, more⟩
  obtain ⟨d', ds', eq, zero', nil⟩ := digitsOf_cases n
  rw [h] at eq
  cases eq
  exact more (nil (zero' zero))

/-! ## What follows -/

/-- An input does not start with a digit. -/
def NoDigitHead (rest : Input) : Prop :=
  ∀ c, rest.head? = some (some c) → digitValue? c = none

/-- An input does not start with anything that could be more of a number. -/
def AfterNumber (rest : Input) : Prop :=
  ∀ c, rest.head? = some (some c) → digitValue? c = none ∧ c ≠ '.' ∧ c ≠ 'e' ∧ c ≠ 'E'

theorem AfterNumber.noDigitHead {rest : Input} (h : AfterNumber rest) : NoDigitHead rest :=
  fun c hc => (h c hc).1

theorem noDigitHead_cons {c : Char} {rest : Input} (h : digitValue? c = none) :
    NoDigitHead (some c :: rest) := by
  intro c' hc'
  simp only [List.head?_cons, Option.some.injEq] at hc'
  exact hc' ▸ h

variable {rest : Input}

theorem spanDigits_noDigitHead (h : NoDigitHead rest) : spanDigits rest = ([], rest) := by
  unfold spanDigits
  split
  · next c cs =>
      rw [h c rfl]
  · rfl

/-- The reader stops after the digits that were written. -/
theorem spanDigits_append (ds : List (Fin 10)) (h : NoDigitHead rest) :
    spanDigits ((fractionChars ds).map some ++ rest) = (ds, rest) := by
  induction ds with
  | nil => exact spanDigits_noDigitHead h
  | cons d ds ih =>
      have last : lastDigit d.val = d := Fin.ext (Nat.mod_eq_of_lt d.isLt)
      have step : (fractionChars (d :: ds)).map some ++ rest
          = some (digitChar d.val) :: ((fractionChars ds).map some ++ rest) := rfl
      rw [step, spanDigits]
      simp only [digitValue?_digitChar d.isLt, ih, last]

theorem scanWhole_natDigits (m : Nat) (h : NoDigitHead rest) :
    scanWhole ((natDigits m).map some ++ rest) = some (m, rest) := by
  obtain ⟨d, ds, eq, -⟩ := digitsOf_cases m
  unfold scanWhole
  rw [natDigits_eq, spanDigits_append _ h, eq]
  simp only
  rw [if_neg (digitsOf_leading eq), ← eq, valueOf_digitsOf]

theorem scanPower_natDigits (negative : Bool) (m : Nat) (h : NoDigitHead rest) :
    scanPower negative ((natDigits m).map some ++ rest)
      = some (some (if negative then -(m : Int) else m), rest) := by
  obtain ⟨d, ds, eq, -⟩ := digitsOf_cases m
  unfold scanPower
  rw [natDigits_eq, spanDigits_append _ h, eq]
  simp only
  rw [← eq, valueOf_digitsOf]

/-! ## Parts of a number -/

theorem scanFraction_append {d : Fin 10} {ds : List (Fin 10)} (h : NoDigitHead rest) :
    scanFraction (some '.' :: ((fractionChars (d :: ds)).map some ++ rest))
      = some (d :: ds, rest) := by
  simp only [scanFraction, spanDigits_append _ h]

theorem scanFraction_none (h : ∀ c, rest.head? = some (some c) → c ≠ '.') :
    scanFraction rest = some ([], rest) := by
  unfold scanFraction
  split
  · exact absurd rfl (h '.' rfl)
  · rfl

/-- The first character of a numeral is a digit. -/
theorem natDigits_cons (m : Nat) :
    ∃ c cs, natDigits m = c :: cs ∧ isDigit c = true := by
  obtain ⟨d, ds, eq, -⟩ := digitsOf_cases m
  refine ⟨digitChar d.val, fractionChars ds, ?_, isDigit_digitChar d.isLt⟩
  rw [natDigits_eq, eq]
  rfl

theorem ne_of_isDigit {c d : Char} (hc : isDigit c = true) (hd : isDigit d = false) : c ≠ d := by
  rintro rfl
  rw [hc] at hd
  cases hd

theorem scanExponent_append (e : Int) (h : NoDigitHead rest) :
    scanExponent (some 'e' :: ((intDigits e).map some ++ rest)) = some (some e, rest) := by
  simp only [scanExponent, true_or, if_true]
  by_cases negative : e < 0
  · rw [intDigits, if_pos negative]
    have value : -(e.natAbs : Int) = e := by omega
    simp only [List.map_cons, List.cons_append, scanPower_natDigits true e.natAbs h, if_true,
      value]
  · rw [intDigits, if_neg negative]
    have value : (e.natAbs : Int) = e := by omega
    have read := scanPower_natDigits false e.natAbs h
    obtain ⟨c, cs, eq, digit⟩ := natDigits_cons e.natAbs
    simp only [Bool.false_eq_true, if_false, value] at read
    rw [eq] at read ⊢
    simp only [List.map_cons, List.cons_append] at read ⊢
    -- a digit is neither of the two signs
    split
    · next heq =>
        cases heq
        cases digit
    · next heq =>
        cases heq
        cases digit
    · exact read

theorem scanExponent_none (h : ∀ c, rest.head? = some (some c) → c ≠ 'e' ∧ c ≠ 'E') :
    scanExponent rest = some (none, rest) := by
  unfold scanExponent
  split
  · next c cs =>
      rw [if_neg (not_or.mpr (h c rfl))]
  · rfl

/-! ## Numbers -/

/-- A number without its sign. -/
def Number.unsignedChars : Number → List Char
  | .whole _ m => natDigits m
  | .decimal _ m fraction exponent =>
      natDigits m ++ (if fraction.isEmpty then [] else '.' :: fractionChars fraction)
        ++ (if exponent = 0 ∧ !fraction.isEmpty then [] else 'e' :: intDigits exponent)

/-- Whether a number has a minus sign. -/
def Number.isNegative : Number → Bool
  | .whole negative _ => negative
  | .decimal negative .. => negative

theorem renderNumber_eq (n : Number) :
    renderNumber n = (if n.isNegative then ['-'] else []) ++ n.unsignedChars := by
  cases n with
  | whole negative m => rfl
  | decimal negative m fraction exponent =>
      simp only [renderNumber, Number.isNegative, Number.unsignedChars, List.append_assoc]
      rfl

theorem unsignedChars_cons (n : Number) :
    ∃ c cs, n.unsignedChars = c :: cs ∧ isDigit c = true := by
  cases n with
  | whole negative m => exact natDigits_cons m
  | decimal negative m fraction exponent =>
      obtain ⟨c, cs, eq, digit⟩ := natDigits_cons m
      simp only [Number.unsignedChars, eq, List.cons_append]
      exact ⟨c, _, rfl, digit⟩

/-- The digits of a number are read back as the number. -/
theorem scanUnsigned_unsignedChars (n : Number) (h : AfterNumber rest) :
    scanUnsigned n.isNegative (n.unsignedChars.map some ++ rest) = some (n, rest) := by
  have point_none := scanFraction_none fun c hc => (h c hc).2.1
  have power_none := scanExponent_none fun c hc => (h c hc).2.2
  cases n with
  | whole negative m =>
      simp only [Number.isNegative, Number.unsignedChars, scanUnsigned,
        scanWhole_natDigits m h.noDigitHead, point_none, power_none, List.isEmpty_nil, if_true]
  | decimal negative m fraction exponent =>
      simp only [Number.isNegative, Number.unsignedChars]
      cases fraction with
      | nil =>
          have letter : ∀ cs, NoDigitHead (some 'e' :: cs) := fun _ => noDigitHead_cons rfl
          have no_point : ∀ cs, scanFraction (some 'e' :: cs) = some ([], some 'e' :: cs) :=
            fun _ => rfl
          simp only [List.isEmpty_nil, Bool.not_true, Bool.false_eq_true, and_false, if_true,
            if_false, List.append_nil, List.map_append, List.map_cons, List.append_assoc,
            List.cons_append, scanUnsigned, scanWhole_natDigits m (letter _), no_point,
            scanExponent_append exponent h.noDigitHead]
      | cons d ds =>
          have point : ∀ cs, NoDigitHead (some '.' :: cs) := fun _ => noDigitHead_cons rfl
          have letter : ∀ cs, NoDigitHead (some 'e' :: cs) := fun _ => noDigitHead_cons rfl
          by_cases zero : exponent = 0
          · simp only [List.isEmpty_cons, Bool.not_false, Bool.false_eq_true, and_true, zero,
              if_true, if_false, List.append_nil, List.map_append, List.map_cons,
              List.append_assoc, List.cons_append, scanUnsigned,
              scanWhole_natDigits m (point _), scanFraction_append h.noDigitHead, power_none]
          · simp only [List.isEmpty_cons, Bool.not_false, Bool.false_eq_true, and_true, zero,
              if_false, List.map_append, List.map_cons, List.append_assoc, List.cons_append,
              scanUnsigned, scanWhole_natDigits m (point _), scanFraction_append (letter _),
              scanExponent_append exponent h.noDigitHead]

/-- A digit starts a number without a sign. -/
theorem lexeme?_digit {c : Char} (cs : Input) (digit : isDigit c = true) :
    lexeme? (some c :: cs)
      = (scanUnsigned false (some c :: cs)).map fun r => (.plain (.number r.1), r.2) := by
  have other : ∀ d, isDigit d = false → ¬ c = d := fun _ => ne_of_isDigit digit
  simp only [lexeme?, other '[' rfl, other ']' rfl, other '\x7b' rfl, other '\x7d' rfl,
    other ',' rfl, other ':' rfl, other '"' rfl, other 't' rfl, other 'f' rfl, other 'n' rfl,
    other '-' rfl, if_false]

/-- A written number is one lexeme, the number itself. -/
theorem lexeme?_renderNumber (n : Number) (h : AfterNumber rest) :
    lexeme? ((renderNumber n).map some ++ rest) = some (.plain (.number n), rest) := by
  have read := scanUnsigned_unsignedChars n h
  rw [renderNumber_eq]
  cases sign : n.isNegative with
  | true =>
      rw [sign] at read
      simp only [if_true, List.map_cons, List.cons_append, List.nil_append]
      show (scanUnsigned true (n.unsignedChars.map some ++ rest)).map _ = _
      rw [read]
      rfl
  | false =>
      rw [sign] at read
      obtain ⟨c, cs, eq, digit⟩ := unsignedChars_cons n
      simp only [Bool.false_eq_true, if_false, List.nil_append]
      rw [eq] at read ⊢
      simp only [List.map_cons, List.cons_append] at read ⊢
      rw [lexeme?_digit _ digit, read]
      rfl

end StudyHall.Json
