/-!
# Decimal numerals

Writing natural and whole numbers in decimal, and reading the numerals of a machine integer type:
an optional sign, then one or more ASCII digits, within the bounds of the type.

The reader goes from the left and stops at the first fault: a character that is no digit, or the
digit that leaves the bounds.
-/

namespace StudyHall.Text

/-! ## Digits -/

/-- The digit of a number below ten. -/
def digitChar (d : Nat) : Char :=
  Char.ofNat (48 + d)

/-- The value of an ASCII digit. -/
def digitValue? (c : Char) : Option Nat :=
  if '0' ≤ c ∧ c ≤ '9' then some (c.toNat - 48) else none

/-- Whether a character is an ASCII digit. -/
def isDigit (c : Char) : Bool :=
  '0' ≤ c && c ≤ '9'

/-- The last digit of a number. -/
def lastDigit (n : Nat) : Fin 10 :=
  ⟨n % 10, Nat.mod_lt n (by decide)⟩

theorem digitValue?_digitChar {d : Nat} (h : d < 10) : digitValue? (digitChar d) = some d := by
  have all : ∀ e ∈ List.range 10, digitValue? (digitChar e) = some e := by decide
  exact all d (List.mem_range.mpr h)

theorem isDigit_digitChar {d : Nat} (h : d < 10) : isDigit (digitChar d) = true := by
  have all : ∀ e ∈ List.range 10, isDigit (digitChar e) = true := by decide
  exact all d (List.mem_range.mpr h)

/-! ## Writing -/

/-- The digits of a natural number, without leading zeros. -/
def natDigits (n : Nat) : List Char :=
  if n < 10 then [digitChar n] else natDigits (n / 10) ++ [digitChar (n % 10)]
termination_by n
decreasing_by omega

/-- A natural number in decimal. -/
def natText (n : Nat) : String :=
  String.ofList (natDigits n)

/-- The characters of a whole number in decimal, with a minus sign below zero. -/
def intDigits (i : Int) : List Char :=
  if i < 0 then '-' :: natDigits i.natAbs else natDigits i.natAbs

/-- A whole number in decimal. -/
def intText (i : Int) : String :=
  String.ofList (intDigits i)

/-- Exactly `width` digits: the last ones of the numeral, zeros in front. -/
def fixedDigits : Nat → Nat → List Char
  | 0, _ => []
  | width + 1, n => fixedDigits width (n / 10) ++ [digitChar (n % 10)]

/-- At least `width` digits, zeros in front. -/
def paddedDigits (width n : Nat) : List Char :=
  let ds := natDigits n
  List.replicate (width - ds.length) '0' ++ ds

/-! ## Reading -/

/-- The value of a run of digits. -/
def digitsValue (ds : List Nat) : Nat :=
  ds.foldl (fun acc d => 10 * acc + d) 0

/-- Why a numeral is refused. -/
inductive NumeralError where
  /-- There is no character at all. -/
  | empty
  /-- Something is not a digit, or there is a sign and nothing else. -/
  | invalidDigit
  /-- The value is above the greatest of the type. -/
  | tooLarge
  /-- The value is below the least of the type. -/
  | tooSmall
  deriving DecidableEq, Repr

/-- Digits read from the left onto `acc`, with `overflow` for a value above `limit`. -/
def readDigits (limit : Nat) (overflow : NumeralError) (acc : Nat) :
    List Char → Except NumeralError Nat
  | [] => .ok acc
  | c :: cs =>
      match digitValue? c with
      | none => .error .invalidDigit
      | some d =>
          if limit < 10 * acc + d then .error overflow
          else readDigits limit overflow (10 * acc + d) cs

/-- A numeral without a minus sign, at most `limit`. -/
def readUnsigned (limit : Nat) : List Char → Except NumeralError Nat
  | [] => .error .empty
  | ['+'] => .error .invalidDigit
  | '+' :: cs => readDigits limit .tooLarge 0 cs
  | cs => readDigits limit .tooLarge 0 cs

/-- A numeral from `-(limit + 1)` to `limit`, the range of a two's complement type. -/
def readSigned (limit : Nat) : List Char → Except NumeralError Int
  | [] => .error .empty
  | ['-'] => .error .invalidDigit
  | '-' :: cs => (readDigits (limit + 1) .tooSmall 0 cs).map fun n => -(n : Int)
  | cs => (readUnsigned limit cs).map fun n => (n : Int)

/-- The greatest number of 16 bits. -/
def maxWord16 : Nat := 0xffff

/-- The greatest number of 32 bits. -/
def maxWord32 : Nat := 0xffffffff

/-- The greatest number of 64 bits. -/
def maxWord64 : Nat := 0xffffffffffffffff

/-- The greatest number of 63 bits and a sign. -/
def maxInt64 : Nat := 0x7fffffffffffffff

/-- The greatest number of 31 bits and a sign. -/
def maxInt32 : Nat := 0x7fffffff

end StudyHall.Text
