import StudyHall.Text.Lowercase
import StudyHall.Text.Numeral

/-!
# Media types

A media type is a type and a subtype with a slash between them and parameters after semicolons.
`isJson` tells whether it stands for JSON: the type is `application`, and either the part of the
subtype before its last plus sign or the part after it is `json`.

Parameters are checked for their form only.
-/

namespace StudyHall.MediaType

open Text

/-- Whether a character may stand in a name or a bare value. -/
def isNameChar (c : Char) : Bool :=
  isDigit c || ('a' ≤ c && c ≤ 'z') || ('A' ≤ c && c ≤ 'Z')
    || "!#$%&'*+-.^_\x60|~".toList.contains c

/-- Whether a character may stand between quotes. -/
def isQuotable (c : Char) : Bool :=
  31 < c.toNat && c.toNat != 127

/-! ## Parameters -/

/-- Where the reading of parameters stands. -/
inductive Place where
  /-- In the blanks before a name. -/
  | beforeName
  /-- In a name. -/
  | name
  /-- Just after the equals sign. -/
  | beforeValue
  /-- In a bare value. -/
  | value
  /-- Just after the opening quote. -/
  | openQuote
  /-- Between quotes. -/
  | quoted
  /-- After the closing quote. -/
  | afterQuote
  deriving DecidableEq

/-- The place after one character more. A quote ends a quoted value that is not empty. -/
def Place.next : Place → Char → Option Place
  | .beforeName, c =>
      if c = ' ' then some .beforeName else if isNameChar c then some .name else none
  | .name, c => if c = '=' then some .beforeValue else if isNameChar c then some .name else none
  | .beforeValue, c =>
      if c = '"' then some .openQuote else if isNameChar c then some .value else none
  | .value, c => if c = ';' then some .beforeName else if isNameChar c then some .value else none
  | .openQuote, c => if isQuotable c then some .quoted else none
  | .quoted, c =>
      if c = '"' then some .afterQuote else if isQuotable c then some .quoted else none
  | .afterQuote, c =>
      if c = ';' then some .beforeName else if c = ' ' then some .afterQuote else none

/-- Whether parameters may end at a place. -/
def Place.mayEnd : Place → Bool
  | .beforeName => true
  | .beforeValue => true
  | .value => true
  | .afterQuote => true
  | .name => false
  | .openQuote => false
  | .quoted => false

/-- Whether characters complete parameters that have come to a place. -/
def areParametersFrom : Place → List Char → Bool
  | p, [] => p.mayEnd
  | p, c :: cs =>
      match p.next c with
      | some q => areParametersFrom q cs
      | none => false

/-- Whether characters are parameters, after the semicolon that introduces them. -/
def areParameters (cs : List Char) : Bool :=
  areParametersFrom .beforeName cs

/-! ## Types -/

/-- A type name, a subtype name, and what follows them. -/
def names? (cs : List Char) : Option (List Char × List Char × List Char) :=
  let main := cs.takeWhile isNameChar
  match cs.dropWhile isNameChar with
  | '/' :: rest =>
      let sub := rest.takeWhile isNameChar
      if main.isEmpty || sub.isEmpty then none else some (main, sub, rest.dropWhile isNameChar)
  | _ => none

/-- The parts of a subtype before and after its last plus sign; a plus sign at the start is none.
-/
def suffixed : List Char → List Char × Option (List Char)
  | [] => ([], none)
  | c :: cs =>
      match (cs.reverse.dropWhile (· != '+')).reverse with
      | [] => (c :: cs, none)
      | upToPlus => (c :: upToPlus.dropLast, some (cs.drop upToPlus.length))

/-- Whether what follows the names of a media type leaves it well-formed. -/
def isTail : List Char → Bool
  | [] => true
  | ';' :: cs => areParameters cs
  | _ => false

/-- Whether a media type stands for JSON. -/
def isJson (s : String) : Bool :=
  match names? s.toList with
  | some (main, sub, tail) =>
      let (stem, suffix) := suffixed (sub.map asciiLowerChar)
      main.map asciiLowerChar == "application".toList
        && (stem == "json".toList || suffix == some "json".toList) && isTail tail
  | none => false

end StudyHall.MediaType
