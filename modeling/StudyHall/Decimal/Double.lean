import StudyHall.Decimal.Nearest
import StudyHall.Decimal.Shortest
import StudyHall.Json.Basic
import StudyHall.Text.Numeral

/-!
# Fractions in JSON

Reading a JSON number as a number of the 64-bit format, and writing such a number with the fewest
digits that read back.

A number is read as the nearest of the format; one that is nearer to the power of two beyond the
greatest number than to that number is none. It is written positionally from 10⁻⁵ to below 10¹⁶
and with an exponent elsewhere; a whole number keeps one place after its point.
-/

namespace StudyHall.Decimal

open Text

/-! ## Reading -/

/-- The digits of a JSON number as one natural number, and the power of ten of the last of
them. -/
def scientific : Json.Number → Nat × Int
  | .whole _ m => (m, 0)
  | .decimal _ m fraction exponent =>
      (m * Nat.pow 10 fraction.length + digitsValue (fraction.map Fin.val),
        exponent - fraction.length)

/-- Whether a JSON number has a minus sign. -/
def isNegative : Json.Number → Bool
  | .whole negative _ => negative
  | .decimal negative .. => negative

/-- The number of the 64-bit format that a JSON number is read as. -/
def ofNumber? (n : Json.Number) : Option Float :=
  let (digits, exponent) := scientific n
  (nearestBits? digits exponent).map fun bits =>
    Float.ofBits (UInt64.ofNat (if isNegative n then signBit + bits else bits))

/-- The number of the 64-bit format that a JSON value is read as. -/
def ofJson? : Json → Option Float
  | .number n => ofNumber? n
  | _ => none

/-! ## Writing -/

/-- The last `places` digits of a number. -/
def lastDigits (places n : Nat) : List (Fin 10) :=
  match places with
  | 0 => []
  | places + 1 => lastDigits places (n / 10) ++ [lastDigit n]

/-- A decimal as a JSON number. -/
def Expansion.toNumber (negative : Bool) (r : Expansion) : Json.Number :=
  let length := (natDigits r.digits).length
  let top : Int := length + r.exponent
  if 0 ≤ r.exponent ∧ top ≤ 16 then
    .decimal negative (r.digits * Nat.pow 10 r.exponent.toNat) [0] 0
  else if -5 < top ∧ top ≤ 16 then
    let places := (-r.exponent).toNat
    .decimal negative (r.digits / Nat.pow 10 places) (lastDigits places r.digits) 0
  else
    let places := length - 1
    .decimal negative (r.digits / Nat.pow 10 places) (lastDigits places r.digits) (top - 1)

/-- The JSON value of a finite number of the 64-bit format, and `null` for any other. -/
def toJson (f : Float) : Json :=
  let bits := f.toBits.toNat
  let negative := decide (signBit ≤ bits)
  let field : Nat := bits / Nat.pow 2 52 % 2048
  let fraction := bits % Nat.pow 2 52
  if field = 2047 then .null
  else if field = 0 ∧ fraction = 0 then .number (.decimal negative 0 [0] 0)
  else if field = 0 then .number ((shortest fraction (-1074)).toNumber negative)
  else .number ((shortest (Nat.pow 2 52 + fraction) (Int.ofNat field - 1075)).toNumber negative)

end StudyHall.Decimal
