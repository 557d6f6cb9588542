import StudyHall.Text.CaseTable

/-!
# Letter case

`lowercase` is the full Unicode mapping: one character at a time by the case runs, U+0130 to two
characters, and a capital sigma to the final form at the end of a word. `asciiUpper` and
`asciiLower` touch the letters of ASCII only.

A sigma ends a word when, the marks in `Case_Ignorable` skipped, a cased letter stands before it
and none after it.
-/

namespace StudyHall.Text

/-! ## ASCII case -/

/-- The small letters of ASCII as capitals, all else as it is. -/
def asciiUpperChar (c : Char) : Char :=
  if 'a' ≤ c ∧ c ≤ 'z' then Char.ofNat (c.toNat - 32) else c

/-- The capitals of ASCII as small letters, all else as it is. -/
def asciiLowerChar (c : Char) : Char :=
  if 'A' ≤ c ∧ c ≤ 'Z' then Char.ofNat (c.toNat + 32) else c

/-- A text with the small letters of ASCII as capitals. -/
def asciiUpper (s : String) : String :=
  String.ofList (s.toList.map asciiUpperChar)

/-- A text with the capitals of ASCII as small letters. -/
def asciiLower (s : String) : String :=
  String.ofList (s.toList.map asciiLowerChar)

/-! ## Full case -/

/-- Whether a character has case. -/
def isCased (c : Char) : Bool :=
  inIntervals casedIntervals c.toNat

/-- Whether a character is skipped in the search for a cased neighbour. -/
def isCaseIgnorable (c : Char) : Bool :=
  inIntervals caseIgnorableIntervals c.toNat

/-- The one-character lower-case form by the case runs. -/
def simpleLower (c : Char) : Char :=
  match caseRuns.find? fun r => r.covers c.toNat with
  | some r => Char.ofNat (c.toNat + r.shift).toNat
  | none => c

/-- The lower-case form of a character that stands alone: two characters for U+0130. -/
def lowerChar (c : Char) : List Char :=
  if c.toNat < 0x80 then [asciiLowerChar c]
  else if c.toNat == 0x130 then ['i', Char.ofNat 0x307]
  else [simpleLower c]

/-- Whether the first character that is not skipped has case. -/
def meetsCased (cs : List Char) : Bool :=
  match cs.dropWhile isCaseIgnorable with
  | [] => false
  | c :: _ => isCased c

/-- Lower-casing with the characters already passed, nearest first. -/
def lowerFrom (before : List Char) : List Char → List Char
  | [] => []
  | c :: cs =>
      (if c.toNat == 0x3a3 then
        [if meetsCased before && !meetsCased cs then Char.ofNat 0x3c2 else Char.ofNat 0x3c3]
      else lowerChar c) ++ lowerFrom (c :: before) cs

/-- Characters in lower case. -/
def lowerChars (cs : List Char) : List Char :=
  lowerFrom [] cs

/-- A text in lower case. -/
def lowercase (s : String) : String :=
  String.ofList (lowerChars s.toList)

end StudyHall.Text
