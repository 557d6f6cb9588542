/-!
# Base 64 with the alphabet for addresses, unpadded

Three bytes are written as four characters of `A`-`Z`, `a`-`z`, `0`-`9`, `-` and `_`; a rest of
one or two bytes as two or three. `decode?` accepts exactly what `encode` produces: no padding
character, no rest of one character, and zeros in the bits that a last character leaves unused.
-/

namespace StudyHall.Base64Url

/-! ## The alphabet -/

/-- The character of a value below 64. -/
def digitChar (v : Nat) : Char :=
  if v < 26 then Char.ofNat (65 + v)
  else if v < 52 then Char.ofNat (71 + v)
  else if v < 62 then Char.ofNat (v - 4)
  else if v = 62 then '-'
  else '_'

/-- The value of a character of the alphabet. -/
def digitValue? (c : Char) : Option Nat :=
  if 'A' ≤ c ∧ c ≤ 'Z' then some (c.toNat - 65)
  else if 'a' ≤ c ∧ c ≤ 'z' then some (c.toNat - 71)
  else if '0' ≤ c ∧ c ≤ '9' then some (c.toNat + 4)
  else if c = '-' then some 62
  else if c = '_' then some 63
  else none

theorem digitValue?_digitChar {v : Nat} (h : v < 64) : digitValue? (digitChar v) = some v := by
  have all : ∀ e ∈ List.range 64, digitValue? (digitChar e) = some e := by decide
  exact all v (List.mem_range.mpr h)

/-! ## Writing and reading -/

/-- Bytes as characters of the alphabet. -/
def encode : List UInt8 → List Char
  | [] => []
  | [a] => [digitChar (a.toNat / 4), digitChar (a.toNat % 4 * 16)]
  | [a, b] =>
      [digitChar (a.toNat / 4), digitChar (a.toNat % 4 * 16 + b.toNat / 16),
        digitChar (b.toNat % 16 * 4)]
  | a :: b :: c :: rest =>
      digitChar (a.toNat / 4) :: digitChar (a.toNat % 4 * 16 + b.toNat / 16)
        :: digitChar (b.toNat % 16 * 4 + c.toNat / 64) :: digitChar (c.toNat % 64)
        :: encode rest

/-- The bytes that some characters are the written form of. -/
def decode? : List Char → Option (List UInt8)
  | [] => some []
  | [_] => none
  | [w, x] => do
      let p ← digitValue? w
      let q ← digitValue? x
      if q % 16 = 0 then some [UInt8.ofNat (p * 4 + q / 16)] else none
  | [w, x, y] => do
      let p ← digitValue? w
      let q ← digitValue? x
      let r ← digitValue? y
      if r % 4 = 0 then
        some [UInt8.ofNat (p * 4 + q / 16), UInt8.ofNat (q % 16 * 16 + r / 4)]
      else none
  | w :: x :: y :: z :: rest => do
      let p ← digitValue? w
      let q ← digitValue? x
      let r ← digitValue? y
      let s ← digitValue? z
      let bytes ← decode? rest
      some (UInt8.ofNat (p * 4 + q / 16) :: UInt8.ofNat (q % 16 * 16 + r / 4)
        :: UInt8.ofNat (r % 4 * 64 + s) :: bytes)

end StudyHall.Base64Url
