import StudyHall.Text.Blank
import StudyHall.Text.Numeral

/-!
# Hosts of mail addresses

What may stand after the `@`: a name of dot-separated labels, or an internet address of version 4
or 6 in brackets at the end.
-/

namespace StudyHall.Mail

open Text

/-! ## Names -/

/-- Whether a character is a letter or digit of ASCII. -/
def isAsciiAlphanumeric (c : Char) : Bool :=
  isDigit c || ('a' ≤ c && c ≤ 'z') || ('A' ≤ c && c ≤ 'Z')

/-- Whether characters are a label: 1 to 63 letters, digits and hyphens, with no hyphen at either
end. -/
def isLabel (cs : List Char) : Bool :=
  1 ≤ cs.length && cs.length ≤ 63 && cs.all (fun c => isAsciiAlphanumeric c || c == '-')
    && cs.head? != some '-' && cs.getLast? != some '-'

/-- Whether characters are a name of one or more labels. -/
def isHostName (cs : List Char) : Bool :=
  (pieces (· == '.') cs).all isLabel

/-! ## Internet addresses -/

/-- Whether characters are a number from 0 to 255 without leading zeros. -/
def isOctet (cs : List Char) : Bool :=
  cs.all isDigit && cs.length ≤ 3 && (cs == ['0'] || cs.head? != some '0')
    && match readUnsigned 255 cs with
      | .ok _ => true
      | .error _ => false

/-- Whether characters are an address of version 4. -/
def isAddressV4 (cs : List Char) : Bool :=
  let parts := pieces (· == '.') cs
  parts.length == 4 && parts.all isOctet

/-- Whether a character is a hexadecimal digit. -/
def isHexDigit (c : Char) : Bool :=
  isDigit c || ('a' ≤ c && c ≤ 'f') || ('A' ≤ c && c ≤ 'F')

/-- Whether characters are a group of an address of version 6. -/
def isGroup (cs : List Char) : Bool :=
  1 ≤ cs.length && cs.length ≤ 4 && cs.all isHexDigit

/-- How many groups there are; an address of version 4 may stand for the last two. -/
def groupCount? : List (List Char) → Option Nat
  | [] => some 0
  | [last] => if isGroup last then some 1 else if isAddressV4 last then some 2 else none
  | g :: gs => if isGroup g then (groupCount? gs).map (· + 1) else none

/-- The groups between colons; nothing is no group. -/
def groupsOf (cs : List Char) : List (List Char) :=
  if cs.isEmpty then [] else pieces (· == ':') cs

/-- What stands before and after the first two colons in a row. -/
def cutAtGap : List Char → Option (List Char × List Char)
  | ':' :: ':' :: rest => some ([], rest)
  | c :: rest => (cutAtGap rest).map fun p => (c :: p.1, p.2)
  | [] => none

/-- Whether characters are an address of version 6: eight groups, or fewer around one gap. -/
def isAddressV6 (cs : List Char) : Bool :=
  match cutAtGap cs with
  | none => groupCount? (groupsOf cs) == some 8
  | some (head, tail) =>
      let before := groupsOf head
      match groupCount? (groupsOf tail) with
      | some n => before.all isGroup && before.length + n ≤ 7
      | none => false

/-- What stands in brackets at the end. -/
def bracketed? (cs : List Char) : Option (List Char) :=
  match cs.reverse with
  | ']' :: rest =>
      if rest.contains '[' then some (rest.takeWhile (· != '[')).reverse else none
  | _ => none

/-! ## Hosts -/

/-- Whether characters are a host: a name, or anything that ends in an address in brackets. -/
def isHost (cs : List Char) : Bool :=
  isHostName cs ||
    match bracketed? cs with
    | some address => isAddressV4 address || isAddressV6 address
    | none => false

end StudyHall.Mail
