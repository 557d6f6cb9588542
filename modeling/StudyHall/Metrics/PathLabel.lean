import StudyHall.Bytes.Hex
import StudyHall.Text.CaseTable
import StudyHall.Text.DigitTable

/-!
# Labels for paths

A path becomes a label by putting `:id` in place of identifiers: first every identifier of 32
hexadecimal digits with hyphens, wherever it stands, then every run of decimal digits, of any
script, right after a slash.
-/

namespace StudyHall.PathLabel

open Text

/-- The mark for an identifier. -/
def mark : List Char := [':', 'i', 'd']

/-! ## Identifiers -/

/-- The form of an identifier; `x` stands for a hexadecimal digit. -/
def identifierForm : List Char :=
  "xxxxxxxx-xxxx-xxxx-xxxx-xxxxxxxxxxxx".toList

/-- Whether characters begin with a form. -/
def beginsWith : List Char → List Char → Bool
  | [], _ => true
  | _ :: _, [] => false
  | f :: fs, c :: cs =>
      (if f = '-' then c == '-' else (Hex.digitValue? c).isSome) && beginsWith fs cs

/-- Characters with the mark in place of each identifier, after `rest` characters that belong to
the one before. -/
def markIdentifiersFrom (rest : Nat) : List Char → List Char
  | [] => []
  | c :: cs =>
      match rest with
      | n + 1 => markIdentifiersFrom n cs
      | 0 =>
          if beginsWith identifierForm (c :: cs) then
            mark ++ markIdentifiersFrom (identifierForm.length - 1) cs
          else c :: markIdentifiersFrom 0 cs

/-- Characters with the mark in place of each identifier. -/
def markIdentifiers (cs : List Char) : List Char :=
  markIdentifiersFrom 0 cs

/-! ## Numbers -/

/-- Whether a character is a decimal digit of some script. -/
def isDecimalDigit (c : Char) : Bool :=
  inIntervals decimalDigitIntervals c.toNat

/-- What stands before a character: nothing of interest, a slash, or a number after a slash. -/
inductive Before where
  | other
  | slash
  | number
  deriving DecidableEq

/-- Characters with the mark in place of each number after a slash. -/
def markNumbersFrom (before : Before) : List Char → List Char
  | [] => []
  | c :: cs =>
      if isDecimalDigit c then
        match before with
        | .slash => mark ++ markNumbersFrom .number cs
        | .number => markNumbersFrom .number cs
        | .other => c :: markNumbersFrom .other cs
      else c :: markNumbersFrom (if c = '/' then .slash else .other) cs

/-- Characters with the mark in place of each number after a slash. -/
def markNumbers (cs : List Char) : List Char :=
  markNumbersFrom .other cs

/-- The label of a path. -/
def ofPath (path : List Char) : String :=
  String.ofList (markNumbers (markIdentifiers path))

end StudyHall.PathLabel
