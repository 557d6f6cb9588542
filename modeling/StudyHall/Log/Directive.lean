import StudyHall.Domain.Fault
import StudyHall.Log.Field
import StudyHall.Log.Level

/-!
# Directives

A directive says how much is logged of some events. It is a level for everything, a target for
everything that begins with it, or a target with a level behind an equals sign. The target may be
followed or replaced by brackets that confine it to spans of a name, to a field in braces, or to
both.

The blanks around a directive are passed over when its signs are looked for, but its parts are
then cut out of the text with the blanks, at the same distances in bytes from the start. So blanks
in front shift the parts, and may have the text cut within a character.

## Main definitions

* `Directive.parse` reads a directive.
* `Directive.fits` tells whether it decides about an event, `Directive.YieldsTo` which of two does.
-/

namespace StudyHall.Log

open Text

/-! ## Cutting by bytes -/

/-- The number of bytes of characters. -/
def byteCount (cs : List Char) : Nat :=
  cs.foldl (fun n c => n + c.utf8Size) 0

/-- The characters in front of a distance in bytes and those behind it, unless it is within a
character or beyond the end. -/
def splitAtByte? (n : Nat) : List Char → Option (List Char × List Char)
  | [] => if n = 0 then some ([], []) else none
  | c :: cs =>
      if n = 0 then some ([], c :: cs)
      else if n < c.utf8Size then none
      else (splitAtByte? (n - c.utf8Size) cs).map fun (front, back) => (c :: front, back)

/-! ## Refusals -/

/-- Why a text is no directive. -/
inductive DirectiveFault where
  /-- A sign is missing or out of place. -/
  | malformed
  /-- There is no such level. -/
  | unknownLevel
  /-- The value of a field is refused. -/
  | field (fault : FieldFault)
  deriving DecidableEq, Repr

/-- The wording of a refusal. -/
def DirectiveFault.message : DirectiveFault → String
  | .malformed => "invalid filter directive"
  | .unknownLevel =>
      "error parsing level filter: expected one of \"off\", \"error\", \"warn\", \"info\", "
        ++ "\"debug\", \"trace\", or a number 0-5"
  | .field fault => "invalid field filter: " ++ fault.message

/-- A step in reading a directive. -/
abbrev Read (α : Type) := Except (Fault DirectiveFault) α

/-- The characters between two distances in bytes, or from the first on. -/
def cut (text : List Char) (start : Nat) (length : Option Nat) : Read (List Char) :=
  match splitAtByte? start text, length with
  | none, _ => .error .brokenCharacter
  | some (_, back), none => .ok back
  | some (_, back), some n =>
      match splitAtByte? n back with
      | none => .error .brokenCharacter
      | some (front, _) => .ok front

/-! ## Directives -/

/-- A directive. -/
structure Directive where
  /-- What the target of an event must begin with, if anything. -/
  target : Option (List Char)
  /-- Whether spans of a name are asked for. -/
  inSpan : Bool
  field : Option Field
  verbosity : Verbosity
  deriving DecidableEq, Repr

namespace Directive

/-- Whether a character may begin a target. -/
def isTargetStart (c : Char) : Bool :=
  c == '-' || c == ':' || c == '_' || isAlphanumeric c

/-- The verbosity that begins at a distance in a text; nothing there means everything. -/
def readVerbosity (text : List Char) (start : Nat) : Read Verbosity := do
  let word ← cut text start none
  match word, verbosity? word with
  | [], _ => .ok everything
  | _, some v => .ok v
  | _, none => .error (.refused .unknownLevel)

/-- The directive with what is left behind its closing bracket, at a distance in the text. -/
def readBehind (text : List Char) (d : Directive) (start : Nat) : List Char → Read Directive
  | [] => .ok d
  | '=' :: _ => (readVerbosity text (start + 1)).map fun v => { d with verbosity := v }
  | _ => .error (.refused .malformed)

/-- The directive with the field that begins at a distance in the text and what is left there. -/
def readField (text : List Char) (d : Directive) (start : Nat) (cs : List Char) :
    Read Directive := do
  let size := byteCount (cs.takeWhile (· != '\x7d'))
  match cs.dropWhile (· != '\x7d') with
  | [] => .error (.refused .malformed)
  | _ :: rest =>
      let field ← cut text start (some size)
      match field, Field.parse field, rest with
      | [], _, _ => .error (.refused .malformed)
      | _, .error fault, _ => .error (.refused (.field fault))
      | _, .ok f, ']' :: rest => readBehind text { d with field := some f } (start + size + 2) rest
      | _, .ok _, _ => .error (.refused .malformed)

/-- The directive with the span that begins at a distance in the text and what is left there. -/
def readSpan (text : List Char) (target : Option (List Char)) (start : Nat) (cs : List Char) :
    Read Directive := do
  let size := byteCount (cs.takeWhile fun c => c != ']' && c != '\x7b')
  match cs.dropWhile fun c => c != ']' && c != '\x7b' with
  | [] => .error (.refused .malformed)
  | c :: rest =>
      let name ← cut text start (some size)
      if c == ']' then readBehind text ⟨target, true, none, everything⟩ (start + size + 1) rest
      else readField text ⟨target, !name.isEmpty, none, everything⟩ (start + size + 1) rest

/-- Whether a character belongs to the word that begins a directive. -/
def isWordChar (c : Char) : Bool :=
  c != '=' && c != '['

/-- The directive that begins with a word, which is what is left without the blanks around it. -/
def readWord (text : List Char) (cs : List Char) : Read Directive := do
  let size := byteCount (cs.takeWhile isWordChar)
  match cs.dropWhile isWordChar with
  | [] =>
      match verbosity? text with
      | some v => .ok ⟨none, false, none, v⟩
      | none => .ok ⟨some text, false, none, everything⟩
  | sign :: rest =>
      let target ← cut text 0 (some size)
      if sign == '=' then
        (readVerbosity text (size + 1)).map fun v => ⟨some target, false, none, v⟩
      else readSpan text (some target) (size + 1) rest

/-- The directive that a text denotes. -/
def parse (text : List Char) : Read Directive :=
  match trimChars text with
  | [] => .error (.refused .malformed)
  | '[' :: rest => readSpan text none 1 rest
  | c :: cs => if isTargetStart c then readWord text (c :: cs) else .error (.refused .malformed)

/-- Whether a directive decides about an event. One that confines spans or the values of fields
decides about spans alone, and says what these grant. -/
def fits (d : Directive) (e : Event) : Bool :=
  !d.inSpan && d.target.all (fun t => t.isPrefixOf e.target)
    && d.field.all (fun f => !f.hasValue && e.fields.contains f.name)

/-- How particular a directive is: by the length of its target, where no target is shorter than
every target, and of two with one target by the field. -/
def weight (d : Directive) : Nat :=
  let length := match d.target with
    | none => 0
    | some t => t.length + 1
  2 * length + if d.field.isSome then 1 else 0

/-- The name of the field that a directive asks for, and nothing if it asks for none. -/
def fieldName (d : Directive) : String :=
  String.ofList ((d.field.map Field.name).getD [])

/-- Whether a directive gives way to a later one where both fit: that one is more particular, or
equally so and its field does not come before the other in the order of names. -/
def YieldsTo (b d : Directive) : Prop :=
  b.weight < d.weight ∨ b.weight = d.weight ∧ b.fieldName ≤ d.fieldName

instance (b d : Directive) : Decidable (YieldsTo b d) := by
  unfold YieldsTo
  infer_instance

end Directive

end StudyHall.Log
