import StudyHall.Idna.Bidi
import StudyHall.Idna.Mapping
import StudyHall.Idna.Punycode
import StudyHall.Text.NormalForm

/-!
# Domain names in ASCII

`toAscii?` brings a domain name to the form that can be looked up: its characters are mapped and
composed, labels that come in ASCII form are read back, all labels are checked, and those with
characters beyond ASCII are written in ASCII form again.
-/

namespace StudyHall.Idna

open Text

/-- What a label in ASCII form begins with. -/
def labelMark : List Char := "xn--".toList

/-- Whether a label may be looked up: no mark at its beginning, and only characters that the
mapping keeps. -/
def isValidLabel (label : List Char) : Bool :=
  !(label.head?.any isMark) && label.all isKept

/-- A label as it is read: one in ASCII form has to be a valid label in normal form. -/
def readLabel? (label : List Char) : Option (List Char) :=
  if labelMark.isPrefixOf label then do
    let plain ← decode? (label.drop labelMark.length)
    if isNormal plain && isValidLabel plain then some plain else none
  else if isValidLabel label then some label
  else none

/-- A label as it is looked up. -/
def writeLabel (label : List Char) : List Char :=
  if label.all fun c => c.toNat < firstPoint then label else labelMark ++ encode label

/-- A domain name as it is looked up; nothing for one that cannot be. -/
def toAscii? (name : List Char) : Option (List Char) := do
  let mapped ← mapChars? name
  let labels ← (pieces (· == '.') (normalForm mapped)).mapM readLabel?
  if labels.any turnsLeft && !labels.all keepsDirection then none
  else some (joinWith ['.'] (labels.map writeLabel))

end StudyHall.Idna
