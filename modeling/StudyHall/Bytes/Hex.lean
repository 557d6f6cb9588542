/-!
# Hexadecimal digits

Digits below sixteen as characters, written in lower case and read in either case.
-/

namespace StudyHall.Hex

/-- The digit of a number below sixteen, in lower case. -/
def digitChar (d : Nat) : Char :=
  if d < 10 then Char.ofNat (48 + d) else Char.ofNat (87 + d)

/-- The value of a hexadecimal digit in either case. -/
def digitValue? (c : Char) : Option Nat :=
  if '0' ≤ c ∧ c ≤ '9' then some (c.toNat - 48)
  else if 'a' ≤ c ∧ c ≤ 'f' then some (c.toNat - 87)
  else if 'A' ≤ c ∧ c ≤ 'F' then some (c.toNat - 55)
  else none

theorem digitValue?_digitChar {d : Nat} (h : d < 16) : digitValue? (digitChar d) = some d := by
  have all : ∀ e ∈ List.range 16, digitValue? (digitChar e) = some e := by decide
  exact all d (List.mem_range.mpr h)

theorem digitValue?_lt {c : Char} {v : Nat} (digit : digitValue? c = some v) : v < 16 := by
  unfold digitValue? at digit
  split at digit
  · next within =>
      have high : c.toNat ≤ 57 := UInt32.le_iff_toNat_le.mp within.2
      cases digit
      omega
  · split at digit
    · next within =>
        have high : c.toNat ≤ 102 := UInt32.le_iff_toNat_le.mp within.2
        cases digit
        omega
    · split at digit
      · next within =>
          have high : c.toNat ≤ 70 := UInt32.le_iff_toNat_le.mp within.2
          cases digit
          omega
      · cases digit

/-- A number in hexadecimal without leading zeros. -/
def digits (n : Nat) : List Char :=
  if n < 16 then [digitChar n] else digits (n / 16) ++ [digitChar (n % 16)]
termination_by n
decreasing_by omega

/-- A number as exactly `width` hexadecimal digits. -/
def fixed : Nat → Nat → List Char
  | 0, _ => []
  | width + 1, n => fixed width (n / 16) ++ [digitChar (n % 16)]

/-- The value of a byte written as two digits. -/
def byte? (hi lo : Char) : Option UInt8 :=
  match digitValue? hi, digitValue? lo with
  | some h, some l => some (UInt8.ofNat (16 * h + l))
  | _, _ => none

end StudyHall.Hex
