import StudyHall.Text.CaseTable
import StudyHall.Text.LetterTable

/-!
# Letters and numbers

Whether a character of any script is a letter or a number.
-/

namespace StudyHall.Text

/-- Whether a character is alphabetic. -/
def isAlphabetic (c : Char) : Bool :=
  inIntervals alphabeticIntervals c.toNat

/-- Whether a character is alphabetic, a digit or another number. -/
def isAlphanumeric (c : Char) : Bool :=
  isAlphabetic c || inIntervals numberIntervals c.toNat

end StudyHall.Text
