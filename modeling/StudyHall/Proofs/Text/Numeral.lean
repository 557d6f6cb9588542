import Mathlib.Algebra.GroupWithZero.Nat
import StudyHall.Domain.Fault
import StudyHall.Text.Numeral

/-!
# Numerals read back

A run of digits spells a number when it is not empty and its digits, read from the left, give the
number. Every way to write a numeral spells what it was given: without leading zeros, in a fixed
number of places, and filled up to a number of places.

The other way round, a reader of numerals succeeds on the runs of digits that spell a number within
its bounds, with the signs that its type has, and gives that number. It may stop at the first digit
that leaves the bounds because a digit more never makes a number smaller.

## Main results

* `Spells.append_digit` — one more digit on the right.
* `spells_fixedDigits`, `spells_natDigits`, `spells_paddedDigits` — the three ways to write a
  number.
* `natText_inj` — no two numbers are written alike.
* `fixedDigits_lt` — numerals of one width are in the order of the numbers.
* `readUnsigned_eq_ok_iff`, `readSigned_eq_ok_iff` — what is read as a number.
* `readSigned_eq_ok_iff_of_pos` — above zero a sign makes no difference to the reader.
-/

namespace StudyHall.Text

/-- Digits, at least one, that give a number when read from the left. -/
structure Spells (cs : List Char) (n : Nat) : Prop where
  nonempty : cs ≠ []
  digits : ∀ c ∈ cs, isDigit c = true
  value : digitsValue (cs.filterMap digitValue?) = n

/-! ## One digit -/

theorem spells_digitChar {d : Nat} (h : d < 10) : Spells [digitChar d] d where
  nonempty := List.cons_ne_nil _ _
  digits c hc := by
    rw [List.mem_singleton.mp hc]
    exact isDigit_digitChar h
  value := by
    simp [digitValue?_digitChar h, digitsValue]

/-- A digit on the right multiplies what stands before it by ten. -/
theorem Spells.append_digit {cs : List Char} {n d : Nat} (h : Spells cs n) (hd : d < 10) :
    Spells (cs ++ [digitChar d]) (10 * n + d) where
  nonempty := by simp
  digits c hc := by
    rcases List.mem_append.mp hc with front | last
    · exact h.digits c front
    · exact (spells_digitChar hd).digits c last
  value := by
    have front := h.value
    unfold digitsValue at front ⊢
    simp [digitValue?_digitChar hd, front]

/-- Zeros on the left change nothing. -/
theorem Spells.zeros_append {cs : List Char} {n : Nat} (h : Spells cs n) (zeros : Nat) :
    Spells (List.replicate zeros '0' ++ cs) n := by
  induction zeros with
  | zero => exact h
  | succ zeros ih =>
      refine ⟨List.cons_ne_nil _ _, fun c hc => ?_, ih.value⟩
      rcases List.mem_cons.mp hc with rfl | mem
      · decide
      · exact ih.digits c mem

/-! ## Numerals -/

@[simp]
theorem length_fixedDigits (width n : Nat) : (fixedDigits width n).length = width := by
  induction width generalizing n with
  | zero => rfl
  | succ width ih => simp [fixedDigits, ih]

/-- A number that fits is spelt in a fixed number of places. -/
theorem spells_fixedDigits {width n : Nat} (positive : 0 < width) (fits : n < 10 ^ width) :
    Spells (fixedDigits width n) n := by
  induction width generalizing n with
  | zero => cases positive
  | succ width ih =>
      have last : n % 10 < 10 := Nat.mod_lt n (by decide)
      unfold fixedDigits
      by_cases only : width = 0
      · subst only
        have small : n % 10 = n := Nat.mod_eq_of_lt fits
        rw [small] at last ⊢
        exact spells_digitChar last
      · have front := ih (n := n / 10) (by omega) (by rw [Nat.pow_succ] at fits; omega)
        have whole := front.append_digit last
        rwa [Nat.div_add_mod] at whole

/-- The numeral without leading zeros, by induction along its digits. -/
theorem spells_natDigits (n : Nat) : Spells (natDigits n) n := by
  induction n using natDigits.induct with
  | case1 n small =>
      rw [natDigits, if_pos small]
      exact spells_digitChar small
  | case2 n large ih =>
      have whole := ih.append_digit (Nat.mod_lt n (by decide))
      rw [Nat.div_add_mod] at whole
      rwa [natDigits, if_neg large]

theorem spells_paddedDigits (width n : Nat) : Spells (paddedDigits width n) n :=
  (spells_natDigits n).zeros_append _

/-- Digits give one number only. -/
theorem Spells.eq {cs : List Char} {m n : Nat} (hm : Spells cs m) (hn : Spells cs n) : m = n :=
  hm.value.symm.trans hn.value

/-- The numeral tells the number. -/
@[simp] theorem natText_inj {m n : Nat} : natText m = natText n ↔ m = n := by
  constructor
  · intro same
    have digits : natDigits m = natDigits n := String.ofList_injective same
    have spelt : Spells (natDigits n) m := digits ▸ spells_natDigits m
    exact spelt.eq (spells_natDigits n)
  · rintro rfl
    rfl

/-! ## Order -/

theorem digitChar_lt {d e : Nat} (less : d < e) (h : e < 10) : digitChar d < digitChar e := by
  have all : ∀ e ∈ List.range 10, ∀ d ∈ List.range e, digitChar d < digitChar e := by decide
  exact all e (List.mem_range.mpr h) d (List.mem_range.mpr less)

/-- What follows texts of one length does not count for their order. -/
theorem append_lt_append {a b : List Char} (less : a < b) (same : a.length = b.length)
    (x y : List Char) : a ++ x < b ++ y := by
  induction a generalizing b with
  | nil =>
      rw [List.length_nil, eq_comm, List.length_eq_zero_iff] at same
      subst same
      exact absurd less (List.lt_irrefl [])
  | cons c a ih =>
      cases b with
      | nil => cases same
      | cons d b =>
          rw [List.cons_append, List.cons_append, List.cons_lt_cons_iff]
          rcases List.cons_lt_cons_iff.mp less with first | ⟨equal, rest⟩
          · exact .inl first
          · exact .inr ⟨equal, ih rest (Nat.succ.inj same)⟩

/-- In a fixed number of places the numerals are in the order of the numbers. -/
theorem fixedDigits_lt {width m n : Nat} (less : m < n) (fits : n < 10 ^ width) :
    fixedDigits width m < fixedDigits width n := by
  induction width generalizing m n with
  | zero => omega
  | succ width ih =>
      unfold fixedDigits
      by_cases front : m / 10 < n / 10
      · have fits' : n / 10 < 10 ^ width := by
          rw [Nat.pow_succ] at fits
          omega
        exact append_lt_append (ih front fits') (by simp) _ _
      · have same : m / 10 = n / 10 := by omega
        have last : digitChar (m % 10) < digitChar (n % 10) := digitChar_lt (by omega) (by omega)
        rw [same]
        exact List.append_left_lt (List.cons_lt_cons_iff.mpr (.inl last))

/-! ## Reading -/

/-- The value of digits that follow others. -/
def valueAfter (acc : Nat) (cs : List Char) : Nat :=
  (cs.filterMap digitValue?).foldl (fun acc d => 10 * acc + d) acc

theorem valueAfter_cons {c : Char} {d : Nat} (digit : digitValue? c = some d) (acc : Nat)
    (cs : List Char) : valueAfter acc (c :: cs) = valueAfter (10 * acc + d) cs := by
  simp only [valueAfter, List.filterMap_cons, digit, List.foldl_cons]

theorem isDigit_iff (c : Char) : isDigit c = true ↔ ∃ d, digitValue? c = some d := by
  unfold isDigit digitValue?
  by_cases digit : '0' ≤ c ∧ c ≤ '9'
  · simp [digit]
  · simp [digit]

/-- More digits never make a number smaller. -/
theorem le_valueAfter (acc : Nat) (cs : List Char) : acc ≤ valueAfter acc cs := by
  induction cs generalizing acc with
  | nil => exact Nat.le_refl acc
  | cons c cs ih =>
      cases digit : digitValue? c with
      | none =>
          simp only [valueAfter, List.filterMap_cons, digit]
          exact ih acc
      | some d =>
          rw [valueAfter_cons digit]
          have grown := ih (10 * acc + d)
          omega

theorem digitValue?_lt {c : Char} {d : Nat} (digit : digitValue? c = some d) : d < 10 := by
  unfold digitValue? at digit
  split at digit
  · next within =>
      have high : c.toNat ≤ 57 := UInt32.le_iff_toNat_le.mp within.2
      cases digit
      omega
  · cases digit

/-- Every digit makes room for ten numbers. -/
theorem valueAfter_lt (acc : Nat) {cs : List Char} (digits : ∀ c ∈ cs, isDigit c = true) :
    valueAfter acc cs < (acc + 1) * 10 ^ cs.length := by
  induction cs generalizing acc with
  | nil =>
      show acc < (acc + 1) * 1
      omega
  | cons c cs ih =>
      obtain ⟨first, others⟩ := List.forall_mem_cons.mp digits
      obtain ⟨d, digit⟩ := (isDigit_iff c).mp first
      have small := digitValue?_lt digit
      calc valueAfter acc (c :: cs)
          = valueAfter (10 * acc + d) cs := valueAfter_cons digit acc cs
        _ < (10 * acc + d + 1) * 10 ^ cs.length := ih _ others
        _ ≤ (acc + 1) * 10 * 10 ^ cs.length := Nat.mul_le_mul_right _ (by omega)
        _ = (acc + 1) * 10 ^ (c :: cs).length := by
            rw [List.length_cons, Nat.pow_succ', Nat.mul_assoc]

/-- Digits are read when they are digits and stay within the limit. -/
theorem readDigits_eq_ok_iff {limit acc n : Nat} {overflow : NumeralError} {cs : List Char}
    (start : acc ≤ limit) :
    readDigits limit overflow acc cs = .ok n
      ↔ (∀ c ∈ cs, isDigit c = true) ∧ valueAfter acc cs = n ∧ n ≤ limit := by
  induction cs generalizing acc with
  | nil =>
      constructor
      · intro read
        cases read
        exact ⟨fun c mem => (List.not_mem_nil mem).elim, rfl, start⟩
      · rintro ⟨-, rfl, -⟩
        rfl
  | cons c cs ih =>
      cases digit : digitValue? c with
      | none =>
          have other : ¬isDigit c = true := by
            intro is
            obtain ⟨d, value⟩ := (isDigit_iff c).mp is
            rw [digit] at value
            cases value
          constructor
          · intro read
            simp only [readDigits, digit] at read
            cases read
          · rintro ⟨digits, -⟩
            exact absurd (digits c List.mem_cons_self) other
      | some d =>
          have is : isDigit c = true := (isDigit_iff c).mpr ⟨d, digit⟩
          rw [valueAfter_cons digit, List.forall_mem_cons]
          simp only [readDigits, digit]
          by_cases outside : limit < 10 * acc + d
          · have grown := le_valueAfter (10 * acc + d) cs
            rw [if_pos outside]
            constructor
            · intro read
              cases read
            · rintro ⟨-, value, within⟩
              omega
          · rw [if_neg outside, ih (Nat.not_lt.mp outside)]
            simp only [is, true_and]

theorem spells_iff (cs : List Char) (n : Nat) :
    Spells cs n ↔ cs ≠ [] ∧ (∀ c ∈ cs, isDigit c = true) ∧ valueAfter 0 cs = n :=
  ⟨fun h => ⟨h.nonempty, h.digits, h.value⟩, fun ⟨nonempty, digits, value⟩ =>
    ⟨nonempty, digits, value⟩⟩

/-- A number has as many digits as it needs. -/
theorem Spells.lt {cs : List Char} {n : Nat} (h : Spells cs n) : n < 10 ^ cs.length := by
  have small := valueAfter_lt 0 h.digits
  have value : valueAfter 0 cs = n := h.value
  rwa [value, Nat.zero_add, Nat.one_mul] at small

/-- Digits that spell a number, with or without a plus sign. -/
inductive Unsigned : List Char → Nat → Prop
  | bare {cs : List Char} {n : Nat} (spelt : Spells cs n) : Unsigned cs n
  | plus {cs : List Char} {n : Nat} (spelt : Spells cs n) : Unsigned ('+' :: cs) n

/-- Digits that spell a number, with or without a sign. -/
inductive Signed : List Char → Int → Prop
  | unsigned {cs : List Char} {n : Nat} (numeral : Unsigned cs n) : Signed cs n
  | minus {cs : List Char} {n : Nat} (spelt : Spells cs n) : Signed ('-' :: cs) (-(n : Int))

theorem Spells.isDigit_head {c : Char} {cs : List Char} {n : Nat} (h : Spells (c :: cs) n) :
    isDigit c = true :=
  h.digits c List.mem_cons_self

theorem unsigned_plus_iff (cs : List Char) (n : Nat) : Unsigned ('+' :: cs) n ↔ Spells cs n := by
  constructor
  · intro numeral
    cases numeral with
    | bare spelt => exact absurd spelt.isDigit_head (by decide)
    | plus spelt => exact spelt
  · exact .plus

theorem unsigned_iff_spells {cs : List Char} (signless : ∀ rest, cs ≠ '+' :: rest) (n : Nat) :
    Unsigned cs n ↔ Spells cs n := by
  constructor
  · intro numeral
    cases numeral with
    | bare spelt => exact spelt
    | plus spelt => exact absurd rfl (signless _)
  · exact .bare

/-- A number without a minus sign is read from its numeral, when it is within the limit. -/
theorem readUnsigned_eq_ok_iff {limit n : Nat} {cs : List Char} :
    readUnsigned limit cs = .ok n ↔ Unsigned cs n ∧ n ≤ limit := by
  have digits {ds : List Char} (nonempty : ds ≠ []) :
      readDigits limit .tooLarge 0 ds = .ok n ↔ Spells ds n ∧ n ≤ limit := by
    rw [readDigits_eq_ok_iff (Nat.zero_le limit), spells_iff]
    simp only [ne_eq, nonempty, not_false_eq_true, true_and, and_assoc]
  unfold readUnsigned
  split
  · have none : ¬Unsigned [] n := by
      rw [unsigned_iff_spells fun _ => (List.cons_ne_nil _ _).symm]
      exact fun spelt => spelt.nonempty rfl
    simp only [reduceCtorEq, none, false_and]
  · have none : ¬Unsigned ['+'] n := by
      rw [unsigned_plus_iff]
      exact fun spelt => spelt.nonempty rfl
    simp only [reduceCtorEq, none, false_and]
  · next cs more =>
      have nonempty : cs ≠ [] := fun none => more none
      rw [unsigned_plus_iff, digits nonempty]
  · next nonempty _ signless =>
      rw [unsigned_iff_spells signless, digits nonempty]

theorem signed_minus_iff (cs : List Char) (i : Int) :
    Signed ('-' :: cs) i ↔ ∃ n : Nat, Spells cs n ∧ i = -(n : Int) := by
  constructor
  · intro numeral
    cases numeral with
    | unsigned numeral =>
        cases numeral with
        | bare spelt => exact absurd spelt.isDigit_head (by decide)
    | minus spelt => exact ⟨_, spelt, rfl⟩
  · rintro ⟨n, spelt, rfl⟩
    exact .minus spelt

theorem signed_iff_unsigned {cs : List Char} (other : ∀ rest, cs ≠ '-' :: rest) (i : Int) :
    Signed cs i ↔ ∃ n : Nat, Unsigned cs n ∧ i = n := by
  constructor
  · intro numeral
    cases numeral with
    | unsigned numeral => exact ⟨_, numeral, rfl⟩
    | minus spelt => exact absurd rfl (other _)
  · rintro ⟨n, numeral, rfl⟩
    exact .unsigned numeral

/-- A natural number that was read is taken for a whole one. -/
theorem cast_eq_ok_iff {ε : Type} {x : Except ε Nat} {i : Int} :
    (do let n ← x; pure (n : Int)) = .ok i ↔ ∃ n : Nat, x = .ok n ∧ i = n :=
  map_eq_ok_iff (f := fun n : Nat => (n : Int))

/-- A number with a sign is read from its numeral, when it is in the range of its type. -/
theorem readSigned_eq_ok_iff {limit : Nat} {i : Int} {cs : List Char} :
    readSigned limit cs = .ok i ↔ Signed cs i ∧ -((limit : Int) + 1) ≤ i ∧ i ≤ limit := by
  have nothing : ∀ n, ¬Spells [] n := fun n spelt => spelt.nonempty rfl
  unfold readSigned
  split
  · have none : ¬Signed [] i := by
      rw [signed_iff_unsigned fun _ => (List.cons_ne_nil _ _).symm]
      rintro ⟨n, numeral, -⟩
      rw [unsigned_iff_spells fun _ => (List.cons_ne_nil _ _).symm] at numeral
      exact nothing n numeral
    simp only [reduceCtorEq, none, false_and]
  · have none : ¬Signed ['-'] i := by
      rw [signed_minus_iff]
      rintro ⟨n, spelt, -⟩
      exact nothing n spelt
    simp only [reduceCtorEq, none, false_and]
  · next cs more =>
      have nonempty : cs ≠ [] := fun none => more none
      rw [signed_minus_iff, map_eq_ok_iff]
      constructor
      · rintro ⟨_, cast, rfl⟩
        obtain ⟨n, read, rfl⟩ := cast_eq_ok_iff.mp cast
        obtain ⟨digits, value, within⟩ := (readDigits_eq_ok_iff (Nat.zero_le _)).mp read
        exact ⟨⟨n, ⟨nonempty, digits, value⟩, rfl⟩, by omega, by omega⟩
      · rintro ⟨⟨n, spelt, rfl⟩, below, -⟩
        have read : readDigits (limit + 1) .tooSmall 0 cs = .ok n :=
          (readDigits_eq_ok_iff (Nat.zero_le _)).mpr ⟨spelt.digits, spelt.value, by omega⟩
        exact ⟨n, cast_eq_ok_iff.mpr ⟨n, read, rfl⟩, rfl⟩
  · next nonempty _ signless =>
      rw [signed_iff_unsigned signless, map_eq_ok_iff]
      constructor
      · rintro ⟨_, cast, rfl⟩
        obtain ⟨n, read, rfl⟩ := cast_eq_ok_iff.mp cast
        obtain ⟨numeral, within⟩ := readUnsigned_eq_ok_iff.mp read
        exact ⟨⟨n, numeral, rfl⟩, by omega, by omega⟩
      · rintro ⟨⟨n, numeral, rfl⟩, -, above⟩
        have read : readUnsigned limit cs = .ok n :=
          readUnsigned_eq_ok_iff.mpr ⟨numeral, by omega⟩
        exact ⟨n, cast_eq_ok_iff.mpr ⟨n, read, rfl⟩, rfl⟩

/-- Above zero the two readers agree: a minus sign leads to no such number. -/
theorem readSigned_eq_ok_iff_of_pos {limit : Nat} {i : Int} {cs : List Char} (above : 0 < i) :
    readSigned limit cs = .ok i ↔ ∃ n : Nat, readUnsigned limit cs = .ok n ∧ i = n := by
  rw [readSigned_eq_ok_iff]
  simp only [readUnsigned_eq_ok_iff]
  constructor
  · rintro ⟨numeral, -, within⟩
    cases numeral with
    | @unsigned _ n numeral => exact ⟨n, ⟨numeral, by omega⟩, rfl⟩
    | minus spelt => omega
  · rintro ⟨n, ⟨numeral, within⟩, rfl⟩
    exact ⟨.unsigned numeral, by omega, by omega⟩

end StudyHall.Text
