import StudyHall.Decimal.Double

/-!
# How far strict readers come

A strict reader of JSON wants every part of a value as it is: a number of the 64-bit format, a
string that is a text, and arrays and objects within arrays and objects up to some depth. A value
may be well-formed and still disappoint it. The reader then stops where it is; an array or object
that is open there is closed if its end comes next, and so on outwards.

`Json.reach` tells whether the whole value was read, whether the reader failed and yet came to the
end of the value, so that what follows can be read, or whether it is stuck inside.
-/

namespace StudyHall.Json

/-- How far a reader comes in a value. -/
inductive Reach where
  /-- Every part has been read. -/
  | whole
  /-- A part could not be read, and nothing of the value is left behind it. -/
  | ended
  /-- A part could not be read, and something of the value is left. -/
  | stuck
  deriving DecidableEq, Repr

/-- How far a reader comes in a number: to its end, unless it gives up in the digits of an
exponent, at the first that takes it beyond 31 bits. -/
def Number.reach (n : Number) : Reach :=
  if (Decimal.ofNumber? n).isSome then .whole
  else
    match n with
    | .whole .. => .ended
    | .decimal _ _ _ exponent => if exponent / 10 ≤ Text.maxInt32 then .ended else .stuck

/-- How far a reader comes in a string. -/
def textReach : Except Spoilt String → Reach
  | .ok _ => .whole
  | .error .atEnd => .ended
  | .error .within => .stuck

mutual

/-- How far a reader comes in a value, when arrays and objects may be open in each other up to
`depth` levels. -/
def reach (depth : Nat) : Json → Reach
  | .number n => n.reach
  | .string s => textReach s
  | .array items => if depth = 0 then .stuck else reachItems (depth - 1) items
  | .object fields => if depth = 0 then .stuck else reachFields (depth - 1) fields
  | _ => .whole

/-- How far a reader comes in the items of an array. -/
def reachItems (depth : Nat) : List Json → Reach
  | [] => .whole
  | item :: items =>
      match reach depth item with
      | .whole => reachItems depth items
      | .ended => if items.isEmpty then .ended else .stuck
      | .stuck => .stuck

/-- How far a reader comes in the fields of an object; a name that is no text has its value left
behind it. -/
def reachFields (depth : Nat) : List (Option String × Json) → Reach
  | [] => .whole
  | (none, _) :: _ => .stuck
  | (some _, value) :: fields =>
      match reach depth value with
      | .whole => reachFields depth fields
      | .ended => if fields.isEmpty then .ended else .stuck
      | .stuck => .stuck

end

end StudyHall.Json
