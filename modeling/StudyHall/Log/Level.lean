import StudyHall.Text.Lowercase
import StudyHall.Text.Numeral

/-!
# Events and their levels

An event comes from a place in the program, its target, has fields, the message among them, and is
grave to some level. How grave it is decides whether it is logged, up to which level events of its
kind are.
-/

namespace StudyHall.Log

open Text

/-- The level of an event. -/
inductive Level where
  | error
  | warn
  | info
  | debug
  | trace
  deriving DecidableEq, Repr

namespace Level

/-- All levels, the gravest first. -/
def all : List Level := [.error, .warn, .info, .debug, .trace]

/-- The name of a level. -/
def code : Level → String
  | .error => "error"
  | .warn => "warn"
  | .info => "info"
  | .debug => "debug"
  | .trace => "trace"

/-- How little a level matters. -/
def rank : Level → Nat
  | .error => 1
  | .warn => 2
  | .info => 3
  | .debug => 4
  | .trace => 5

end Level

/-- How much is logged: up to the level of this rank, and nothing for zero. -/
abbrev Verbosity := Nat

/-- Everything is logged. -/
def everything : Verbosity := 5

/-- The name of the field that holds the text of an event. -/
def messageField : List Char := "message".toList

/-- An event. -/
structure Event where
  target : List Char
  /-- The names of the fields. -/
  fields : List (List Char)
  level : Level
  /-- The verbosities that are granted by the spans which the event lies in. -/
  granted : List Verbosity
  deriving DecidableEq, Repr

/-- An event outside of spans with no other field than its message. -/
def Event.plain (target : String) (level : Level) : Event :=
  ⟨target.toList, [messageField], level, []⟩

/-- The verbosity that a word or a number names. -/
def verbosity? (cs : List Char) : Option Verbosity :=
  match readUnsigned maxWord64 cs with
  | .ok n => if n ≤ everything then some n else none
  | .error _ =>
      let word := String.ofList (cs.map asciiLowerChar)
      if word = "off" then some 0
      else (Level.all.find? fun l => l.code == word).map Level.rank

end StudyHall.Log
