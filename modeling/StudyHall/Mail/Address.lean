import StudyHall.Idna.Domain
import StudyHall.Mail.Host

/-!
# Mail addresses

An address is a user and a host with an `@` between them, cut at the last one. The user is made of
ASCII letters, digits and a few marks. A host that is none as it stands is tried again in its
ASCII form.
-/

namespace StudyHall.Mail

open Text

/-- Whether a character may stand before the `@`. -/
def isUserChar (c : Char) : Bool :=
  isAsciiAlphanumeric c || ".!#$%&'*+/=?^_\x60\x7b|\x7d~-".toList.contains c

/-- What stands before and after the last `@`. -/
def cutAtLast (cs : List Char) : Option (List Char × List Char) :=
  if cs.contains '@' then
    some (((cs.reverse.dropWhile (· != '@')).drop 1).reverse,
      (cs.reverse.takeWhile (· != '@')).reverse)
  else none

/-- Whether a text is a mail address. -/
def isAddress (s : String) : Bool :=
  match cutAtLast s.toList with
  | none => false
  | some (user, host) =>
      user.length ≤ 64 && host.length ≤ 255 && !user.isEmpty && user.all isUserChar
        && (isHost host || (Idna.toAscii? host).any isHost)

end StudyHall.Mail
