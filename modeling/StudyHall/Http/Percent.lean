import StudyHall.Bytes.Hex
import StudyHall.Bytes.Utf8

/-!
# Percent escapes

A byte in an address is written as `%` and two hexadecimal digits. Reading keeps a `%` without two
digits after it, and every other character as its bytes in UTF-8.
-/

namespace StudyHall.Percent

/-- The bytes of characters with their escapes resolved. -/
def decode : List Char → List UInt8
  | '%' :: a :: b :: rest =>
      match Hex.byte? a b with
      | some x => x :: decode rest
      | none => 0x25 :: decode (a :: b :: rest)
  | c :: rest => Utf8.encodeChar c ++ decode rest
  | [] => []

/-- The text of characters with their escapes resolved, if it is well-formed. -/
def text? (cs : List Char) : Option String :=
  Utf8.text? (decode cs)

/-- The text of characters with their escapes resolved, with U+FFFD for what is ill-formed. -/
def lossy (cs : List Char) : String :=
  Utf8.lossy (decode cs)

end StudyHall.Percent
