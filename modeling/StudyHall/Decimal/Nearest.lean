/-!
# Nearest binary fractions

A decimal `digits * 10 ^ exponent` is read as the number of the 64-bit format nearest to it; of
two that are equally near, as the one with the even significand. `nearestBits?` gives the bits of
that number without the sign.

A number of the format is a significand below 2⁵³ times a power of two, its unit. The greatest
unit that leaves a decimal with 53 bits is found, the decimal is rounded to a whole number of that
unit, and the bits are the place of the unit and the significand added up: a significand that was
rounded up to 2⁵³ then carries over to the next unit, and the one beyond the greatest number shows
as its bits. All arithmetic is exact, on natural numbers.
-/

namespace StudyHall.Decimal

/-- The bit of the minus sign. -/
def signBit : Nat := 0x8000000000000000

/-- The bits that come after those of the greatest number. -/
def overflowBits : Nat := 0x7ff0000000000000

/-- The place of the least unit, 2⁻¹⁰⁷⁴. -/
def leastUnit : Int := -1074

/-- `n / d` rounded to a natural number, a half to the even neighbour. -/
def roundDiv (n d : Nat) : Nat :=
  let below := n / d
  let rest := n % d
  if 2 * rest < d ∨ (2 * rest = d ∧ below % 2 = 0) then below else below + 1

/-- The place of the leading bit of `n / d`, both above zero. -/
def leadingPlace (n d : Nat) : Int :=
  let p : Int := (Nat.log2 n : Int) - (Nat.log2 d : Int)
  if n * Nat.pow 2 (-p).toNat < d * Nat.pow 2 p.toNat then p - 1 else p

/-- The bits of the number nearest to `n / d`, as many as it takes. -/
def roundedBits (n d : Nat) : Nat :=
  let unit := max (leadingPlace n d - 52) leastUnit
  let significand := roundDiv (n * Nat.pow 2 (-unit).toNat) (d * Nat.pow 2 unit.toNat)
  (unit - leastUnit).toNat * Nat.pow 2 52 + significand

/-- The bits of the number nearest to `digits * 10 ^ exponent`; nothing for a decimal beyond the
greatest number. A power of ten is at least that of eight, which tells at once what is far beyond
the greatest number or nearer to zero than to the least one. -/
def nearestBits? (digits : Nat) (exponent : Int) : Option Nat :=
  let size : Int := Nat.log2 digits
  if digits = 0 then some 0
  else if 0 ≤ exponent ∧ 1024 ≤ size + 3 * exponent then none
  else if exponent < 0 ∧ size + 1 + 3 * exponent ≤ leastUnit - 1 then some 0
  else
    let bits := roundedBits (digits * Nat.pow 10 exponent.toNat) (Nat.pow 10 (-exponent).toNat)
    if bits < overflowBits then some bits else none

end StudyHall.Decimal
