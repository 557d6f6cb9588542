import StudyHall.Text.Numeral

/-!
# JSON values

A value of JSON keeps what its readers can tell apart: a number keeps its sign and digits and
whether it was written as a whole number, an object keeps its fields in order with repetitions,
and a string whose escapes or bytes do not make up characters is kept without a text, since it may
stand where nobody reads it.
-/

namespace StudyHall

open Text

/-- A number as it is written. -/
inductive Json.Number where
  /-- Digits without a point or an exponent. -/
  | whole (negative : Bool) (magnitude : Nat)
  /-- Digits, the digits after the point, and the power of ten. -/
  | decimal (negative : Bool) (magnitude : Nat) (fraction : List (Fin 10)) (exponent : Int)
  deriving DecidableEq

/-- Where a reader notices that a string is no text. -/
inductive Json.Spoilt where
  /-- At its closing quote. -/
  | atEnd
  /-- Before its closing quote. -/
  | within
  deriving DecidableEq, Repr

/-- A value of JSON. -/
inductive Json where
  | null
  | bool (b : Bool)
  | number (n : Json.Number)
  /-- A string, which has no text when it holds something that is not a character. -/
  | string (text : Except Json.Spoilt String)
  | array (items : List Json)
  | object (fields : List (Option String × Json))

namespace Json

/-! ## Building values -/

/-- A text as a value. -/
def text (s : String) : Json :=
  .string (.ok s)

/-- A whole number as a value. -/
def int (i : Int) : Json :=
  .number (.whole (decide (i < 0)) i.natAbs)

/-- A count as a value. -/
def nat (n : Nat) : Json :=
  .number (.whole false n)

/-- An object of named fields. -/
def ofFields (fields : List (String × Json)) : Json :=
  .object (fields.map fun f => (some f.1, f.2))

/-- A field that is left out when it has no value. -/
def field? (name : String) (value : Option Json) : List (String × Json) :=
  match value with
  | some j => [(name, j)]
  | none => []

/-- A value that may be absent, as `null` when it is. -/
def orNull (value : Option Json) : Json :=
  value.getD .null

/-! ## Reading values -/

/-- The value of a number written without point and exponent; `-0` counts as a fraction. -/
def Number.int? : Number → Option Int
  | .whole false m => some m
  | .whole true 0 => none
  | .whole true m => some (-m)
  | .decimal .. => none

/-- The text of a string. -/
def text? : Json → Option String
  | .string (.ok s) => some s
  | _ => none

/-- A truth value. -/
def bool? : Json → Option Bool
  | .bool b => some b
  | _ => none

/-- A whole number from `low` to `high`. -/
def intIn? (low high : Int) : Json → Option Int
  | .number n =>
      match n.int? with
      | some i => if low ≤ i ∧ i ≤ high then some i else none
      | none => none
  | _ => none

/-- A whole number of 64 bits with a sign. -/
def int64? (j : Json) : Option Int :=
  j.intIn? (-maxInt64 - 1) maxInt64

/-- A whole number of 32 bits with a sign. -/
def int32? (j : Json) : Option Int :=
  j.intIn? (-maxInt32 - 1) maxInt32

/-- A count of at most 32 bits. -/
def word32? (j : Json) : Option Nat :=
  (j.intIn? 0 maxWord32).map Int.toNat

/-- A count of at most 64 bits. -/
def word64? (j : Json) : Option Nat :=
  (j.intIn? 0 maxWord64).map Int.toNat

/-- A list, each item read by `read?`. -/
def list? {α : Type} (read? : Json → Option α) : Json → Option (List α)
  | .array items => items.mapM read?
  | _ => none

/-- A name out of a fixed set: a string, or an object of that one name with `null`. -/
def name? : Json → Option String
  | .string (.ok s) => some s
  | .object [(some s, .null)] => some s
  | _ => none

/-- The value that a name stands for. -/
def code? {α : Type} (ofName? : String → Option α) (j : Json) : Option α :=
  match j.name? with
  | some s => ofName? s
  | none => none

end Json

end StudyHall
