import StudyHall.Bytes.Hex
import StudyHall.Text.Blank
import StudyHall.Text.Lowercase

/-!
# Elements of patterns

A pattern describes texts. It is made of elements that each stand for one character, for a class of
characters, or for an edge between two; the other modules of this folder put them together.

In a pattern two modes can be switched. Spaced patterns may hold blanks and comments between their
elements. Patterns without Unicode speak about bytes; but the texts they describe are texts, so
that an element which could match a part of a character is not allowed.

## Main definitions

* `Mode.skip` passes over what a spaced pattern does not mean.
* `Element.escaped?` reads what follows a backslash.
* `Element.fits` tells whether an element may stand in a mode.
-/

namespace StudyHall.Pattern

open Text

/-! ## Modes -/

/-- How the elements of a pattern are read. -/
structure Mode where
  /-- Whether blanks and comments between elements are passed over. -/
  spaced : Bool
  /-- Whether classes are those of Unicode. -/
  unicode : Bool
  deriving DecidableEq, Repr

/-- The mode in which a pattern begins. -/
def Mode.initial : Mode := ⟨false, true⟩

/-- What comes behind blanks and comments; a comment goes from a number sign to the end of the
line. -/
def skipBlanks (inComment : Bool) : List Char → List Char
  | [] => []
  | c :: cs =>
      if inComment then skipBlanks (c != '\n') cs
      else if isBlank c then skipBlanks false cs
      else if c == '#' then skipBlanks true cs
      else c :: cs

/-- What comes behind all that is not meant. -/
def Mode.skip (m : Mode) (cs : List Char) : List Char :=
  if m.spaced then skipBlanks false cs else cs

/-! ## Elements -/

/-- What an element stands for. -/
inductive Element where
  /-- One character, perhaps written as the number of a byte. -/
  | literal (c : Char) (asByte : Bool)
  /-- The digits, the blanks or the characters of words, or all others. -/
  | kind (negated : Bool)
  /-- The characters of a general category. -/
  | category
  /-- Any character. -/
  | anything
  /-- The start or the end of the text or of a line. -/
  | edge
  /-- The edge of a word. -/
  | wordEdge
  deriving DecidableEq, Repr

namespace Element

/-- Whether a character is of ASCII. -/
def isAscii (c : Char) : Bool :=
  c.toNat ≤ 0x7f

/-- Whether an element may stand in a mode. -/
def fits (m : Mode) : Element → Bool
  | .literal c asByte => m.unicode || !asByte || isAscii c
  | .kind negated => m.unicode || !negated
  | .category => m.unicode
  | .anything => m.unicode
  | .edge => true
  | .wordEdge => true

/-- Whether an element may stand in brackets. -/
def fitsInBrackets (m : Mode) : Element → Bool
  | .literal c _ => m.unicode || isAscii c
  | .kind negated => m.unicode || !negated
  | .category => m.unicode
  | .anything => false
  | .edge => false
  | .wordEdge => false

/-! ## Escapes -/

/-- The number of exactly so many hexadecimal digits, after `acc`, and what follows it. -/
def hexNumber? (m : Mode) (acc : Nat) : Nat → List Char → Option (Nat × List Char)
  | 0, cs => some (acc, cs)
  | count + 1, cs =>
      match m.skip cs with
      | [] => none
      | c :: rest => (Hex.digitValue? c).bind fun d => hexNumber? m (16 * acc + d) count rest

/-- The character with a number of so many digits, and what follows it. -/
def numbered? (m : Mode) (count : Nat) (asByte : Bool) (cs : List Char) :
    Option (Element × List Char) :=
  (hexNumber? m 0 count cs).bind fun (n, rest) =>
    if n.isValidChar then some (.literal (Char.ofNat n) asByte, rest) else none

/-- The category with a name of one letter, in either case, and what follows it. -/
def category? (m : Mode) (cs : List Char) : Option (Element × List Char) :=
  match m.skip cs with
  | [] => none
  | c :: rest =>
      if "clmnpsz".toList.contains (asciiLowerChar c) then some (.category, rest) else none

/-- Whether a backslash before a character only takes its meaning away. -/
def isQuotable (c : Char) : Bool :=
  isAscii c && !c.isAlphanum && c != '<' && c != '>'

/-- The element that a character behind a backslash begins, and what follows it. -/
def escaped? (m : Mode) (c : Char) (rest : List Char) : Option (Element × List Char) :=
  match c with
  | 'x' => numbered? m 2 true rest
  | 'u' => numbered? m 4 false rest
  | 'U' => numbered? m 8 false rest
  | 'p' => category? m rest
  | 'P' => category? m rest
  | 'a' => some (.literal '\x07' false, rest)
  | 'f' => some (.literal '\x0c' false, rest)
  | 't' => some (.literal '\t' false, rest)
  | 'n' => some (.literal '\n' false, rest)
  | 'r' => some (.literal '\r' false, rest)
  | 'v' => some (.literal '\x0b' false, rest)
  | _ =>
      if "dsw".toList.contains c then some (.kind false, rest)
      else if "DSW".toList.contains c then some (.kind true, rest)
      else if "Az".toList.contains c then some (.edge, rest)
      else if "bB<>".toList.contains c then some (.wordEdge, rest)
      else if isQuotable c then some (.literal c false, rest)
      else none

/-- The element that a character outside of brackets begins, and what follows it. -/
def ofChar? (m : Mode) (c : Char) (rest : List Char) : Option (Element × List Char) :=
  match c, rest with
  | '\\', [] => none
  | '\\', d :: rest => escaped? m d rest
  | '.', _ => some (.anything, rest)
  | '^', _ => some (.edge, rest)
  | '$', _ => some (.edge, rest)
  | _, _ => some (.literal c false, rest)

/-- The element that a character in brackets begins, and what follows it. -/
def ofCharInBrackets? (m : Mode) (c : Char) (rest : List Char) : Option (Element × List Char) :=
  match c, rest with
  | '\\', [] => none
  | '\\', d :: rest => escaped? m d rest
  | _, _ => some (.literal c false, rest)

end Element

/-! ## Heights -/

/-- The height of parts side by side: a part on its own is no higher for it. -/
def heightOf : List Nat → Nat
  | [] => 0
  | [h] => h
  | hs => hs.foldl max 0 + 1

/-- The greatest height of a pattern. -/
def maxHeight : Nat := 250

end StudyHall.Pattern
