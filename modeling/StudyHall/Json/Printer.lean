import StudyHall.Bytes.Hex
import StudyHall.Json.Basic
import StudyHall.Text.Numeral

/-!
# Writing JSON

`render` writes a value without blanks. In a string the quote, the backslash and the characters
below U+0020 are escaped and everything else stands as it is. A string that is no text is written
as one lone surrogate, the shortest string that reads back as such.
-/

namespace StudyHall.Json

open Text

/-! ## Strings -/

/-- One character inside a string. -/
def escapeChar (c : Char) : List Char :=
  if c = '"' then ['\\', '"']
  else if c = '\\' then ['\\', '\\']
  else if c = '\x08' then ['\\', 'b']
  else if c = '\t' then ['\\', 't']
  else if c = '\n' then ['\\', 'n']
  else if c = '\x0c' then ['\\', 'f']
  else if c = '\r' then ['\\', 'r']
  else if c.toNat < 0x20 then '\\' :: 'u' :: Hex.fixed 4 c.toNat
  else [c]

/-- A string with its quotes. -/
def renderString : Option String → List Char
  | some s => '"' :: (s.toList.flatMap escapeChar ++ ['"'])
  | none => ['"', '\\', 'u', 'd', '8', '0', '0', '"']

/-! ## Numbers -/

/-- The digits after a point. -/
def fractionChars (ds : List (Fin 10)) : List Char :=
  ds.map fun d => digitChar d.val

/-- A number: an exponent is written where there is one, and where nothing else would tell the
number from a whole one. -/
def renderNumber : Number → List Char
  | .whole negative m => (if negative then ['-'] else []) ++ natDigits m
  | .decimal negative m fraction exponent =>
      (if negative then ['-'] else []) ++ natDigits m
        ++ (if fraction.isEmpty then [] else '.' :: fractionChars fraction)
        ++ (if exponent = 0 ∧ !fraction.isEmpty then [] else 'e' :: intDigits exponent)

/-! ## Values -/

mutual

/-- A value as characters. -/
def renderChars : Json → List Char
  | .null => ['n', 'u', 'l', 'l']
  | .bool true => ['t', 'r', 'u', 'e']
  | .bool false => ['f', 'a', 'l', 's', 'e']
  | .number n => renderNumber n
  | .string s => renderString s.toOption
  | .array [] => ['[', ']']
  | .array (item :: items) => '[' :: (renderChars item ++ renderItems items)
  | .object [] => ['\x7b', '\x7d']
  | .object ((key, value) :: fields) =>
      '\x7b' :: (renderString key ++ ':' :: (renderChars value ++ renderFields fields))

/-- The rest of an array after an item. -/
def renderItems : List Json → List Char
  | [] => [']']
  | item :: items => ',' :: (renderChars item ++ renderItems items)

/-- The rest of an object after a field. -/
def renderFields : List (Option String × Json) → List Char
  | [] => ['\x7d']
  | (key, value) :: fields =>
      ',' :: (renderString key ++ ':' :: (renderChars value ++ renderFields fields))

end

/-- A value as text. -/
def render (j : Json) : String :=
  String.ofList j.renderChars

end StudyHall.Json
