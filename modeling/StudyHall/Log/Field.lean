import StudyHall.Pattern.Reader
import StudyHall.Text.Numeral

/-!
# Fields in directives

A directive may name a field, and after an equals sign a value: a number, or else a pattern of
texts. What comes after another equals sign is not looked at. Words for truth are patterns of
themselves.
-/

namespace StudyHall.Log

open Text

/-! ## Numbers -/

/-- Whether characters are nothing or an exponent. -/
def isExponent : List Char → Bool
  | [] => true
  | c :: cs =>
      let digits := if cs.head? == some '+' || cs.head? == some '-' then cs.drop 1 else cs
      (c == 'e' || c == 'E') && !digits.isEmpty && digits.all isDigit

/-- Whether characters are digits, perhaps with a point among them or at an end, and perhaps an
exponent. -/
def isDecimal (cs : List Char) : Bool :=
  match cs.dropWhile isDigit with
  | '.' :: rest =>
      (cs.head?.any isDigit || rest.head?.any isDigit) && isExponent (rest.dropWhile isDigit)
  | rest => cs.head?.any isDigit && isExponent rest

/-- Whether characters are a number, perhaps an infinite one or none, without a sign. -/
def isMagnitude (cs : List Char) : Bool :=
  let word := String.ofList (cs.map asciiLowerChar)
  word == "inf" || word == "infinity" || word == "nan" || isDecimal cs

/-- Whether characters are a number. -/
def isNumber : List Char → Bool
  | '+' :: cs => isMagnitude cs
  | '-' :: cs => isMagnitude cs
  | cs => isMagnitude cs

/-! ## Fields -/

/-- Why the value of a field is refused. -/
inductive FieldFault where
  /-- It is neither a number nor a pattern. -/
  | noPattern
  /-- It asks for edges of words in every script. -/
  | asksForWords
  deriving DecidableEq, Repr

/-- The wording of a refusal. -/
def FieldFault.message : FieldFault → String
  | .noPattern => "error building NFA"
  | .asksForWords =>
      "unsupported regex feature for DFAs: cannot build DFAs for regexes with Unicode word "
        ++ "boundaries; switch to ASCII word boundaries, or heuristically enable Unicode word "
        ++ "boundaries or use a different regex engine"

/-- A field that is asked for. -/
structure Field where
  name : List Char
  /-- Whether it must have a value of some kind. -/
  hasValue : Bool
  deriving DecidableEq, Repr

/-- The refusal of a value, if there is one. -/
def valueFault? (cs : List Char) : Option FieldFault :=
  if isNumber cs then none
  else
    match Pattern.ofChars? cs with
    | none => some .noPattern
    | some p => if p.asksForWords then some .asksForWords else none

/-- The field that characters ask for. -/
def Field.parse (cs : List Char) : Except FieldFault Field :=
  match pieces (· == '=') cs with
  | name :: value :: _ =>
      match valueFault? value with
      | some fault => .error fault
      | none => .ok ⟨name, true⟩
  | _ => .ok ⟨cs, false⟩

end StudyHall.Log
