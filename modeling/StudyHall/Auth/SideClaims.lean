import StudyHall.Auth.Claims
import StudyHall.Auth.Header

/-!
# Claims beside those of the service

A token may claim more than the service uses. Three further claims have a meaning of their own and
are read strictly: for whom the token is (`aud`), from when on it is valid (`nbf`) and about whom
it speaks (`sub`). They may not stand twice. One that cannot be read does no harm if the reader
comes to its end; if it is stuck inside, the token is lost.

An audience that can be read makes a token invalid, since the service is none, but only once the
clock has been looked at. The other two claims are not looked at.
-/

namespace StudyHall

/-- Whether a value names an audience: it is a text or a list of texts. -/
def isAudience (j : Json) : Bool :=
  match j.reach tokenDepth, j with
  | .whole, .string _ => true
  | .whole, .array items => items.all fun j => j.text?.isSome
  | _, _ => false

/-- Whether a reader of audiences comes to the end of a value. -/
def isPassableAudience (j : Json) : Bool :=
  j.reach tokenDepth != .stuck

/-- Whether a start of validity can be passed over; a reader that wants a number does not go into
an array or object, and is stuck in front of what it holds. -/
def isPassableStart : Json → Bool
  | .array items => items.isEmpty
  | .object fields => fields.isEmpty
  | j => j.reach 0 != .stuck

/-- Whether a subject can be passed over; a reader that wants a text is stuck in front of an array
or object. -/
def isPassableSubject : Json → Bool
  | .array _ => false
  | .object _ => false
  | j => j.reach 0 != .stuck

/-- The values of the fields with a name. -/
def valuesOf (name : String) (fields : List (Option String × Json)) : List Json :=
  fields.filterMap fun f => if f.1 == some name then some f.2 else none

/-- Whether a claim is missing, or stands once with a value that can be passed over. -/
def isPassable (name : String) (passable : Json → Bool) (fields : List (Option String × Json)) :
    Bool :=
  match valuesOf name fields with
  | [] => true
  | [value] => passable value
  | _ => false

/-- What a token carries. -/
structure Payload where
  claims : Claims
  /-- Whether an audience is named. -/
  hasAudience : Bool
  deriving DecidableEq

/-- The payload that a JSON value denotes. -/
def Payload.ofJson? : Json → Option Payload
  | .object fields =>
      if isPassable "aud" isPassableAudience fields && isPassable "nbf" isPassableStart fields
          && isPassable "sub" isPassableSubject fields then
        (Claims.ofJson? (.object fields)).map fun c =>
          ⟨c, (valuesOf "aud" fields).any isAudience⟩
      else none
  | _ => none

end StudyHall
