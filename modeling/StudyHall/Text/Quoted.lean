import StudyHall.Bytes.Hex
import StudyHall.Text.CaseTable
import StudyHall.Text.InvisibleTable

/-!
# Quoted text

A text between double quotes as logs and reports show it: the quote, the backslash and the usual
controls with a backslash, and a character without a picture of its own by its number in braces.
-/

namespace StudyHall.Text

/-- The spelling of one character between quotes. -/
def quotedChar (c : Char) : List Char :=
  if c = '\x00' then ['\\', '0']
  else if c = '\t' then ['\\', 't']
  else if c = '\r' then ['\\', 'r']
  else if c = '\n' then ['\\', 'n']
  else if c = '"' then ['\\', '"']
  else if c = '\\' then ['\\', '\\']
  else if inIntervals invisibleIntervals c.toNat then
    '\\' :: 'u' :: '\x7b' :: (Hex.digits c.toNat ++ ['\x7d'])
  else [c]

/-- A text between double quotes, with what could mislead a reader spelled out. -/
def quoted (s : String) : String :=
  String.ofList ('"' :: (s.toList.flatMap quotedChar ++ ['"']))

end StudyHall.Text
