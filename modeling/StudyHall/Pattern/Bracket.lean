import StudyHall.Pattern.Element

/-!
# Classes in brackets

A class lists characters, ranges of characters and other classes in brackets. It may be negated,
and lists may be joined by the operators for what is in both, in the first alone, and in one of
them. Dashes at its start and a closing bracket in front of all else stand for themselves.

Of a class only its height is kept. `bracketed?` reads one from behind its first bracket.
-/

namespace StudyHall.Pattern

open Text

/-! ## Named classes -/

/-- The names of classes of ASCII. -/
def classNames : List (List Char) :=
  ["alnum", "alpha", "ascii", "blank", "cntrl", "digit", "graph", "lower", "print", "punct",
    "space", "upper", "word", "xdigit"].map String.toList

/-- A name between colons, from behind its bracket: whether it is negated, and what follows. -/
def namedClass? : List Char → Option (Bool × List Char)
  | ':' :: cs =>
      let negated := cs.head? == some '^'
      let cs := if negated then cs.drop 1 else cs
      match cs.dropWhile (· != ':') with
      | ':' :: ']' :: rest =>
          if classNames.contains (cs.takeWhile (· != ':')) then some (negated, rest) else none
      | _ => none
  | _ => none

/-! ## Open classes -/

/-- How far a class has been read. -/
inductive Stage where
  /-- Nothing yet. -/
  | opened
  /-- The sign of negation or dashes. -/
  | leading
  /-- More than that. -/
  | inside
  deriving DecidableEq, Repr

/-- A class that is open. -/
structure OpenClass where
  stage : Stage
  /-- The height of all before the last operator. -/
  before : Option Nat
  /-- The heights of the items after it. -/
  items : List Nat
  deriving DecidableEq, Repr

namespace OpenClass

/-- A class of which nothing has been read. -/
def empty : OpenClass := ⟨.opened, none, []⟩

/-- The height of what has been read. -/
def height (b : OpenClass) : Nat :=
  match b.before with
  | none => heightOf b.items
  | some h => max h (heightOf b.items) + 1

/-- The class after another item. -/
def add (b : OpenClass) (stage : Stage) (height : Nat) : OpenClass :=
  ⟨stage, b.before, height :: b.items⟩

/-- The class after an operator. -/
def operate (b : OpenClass) : OpenClass :=
  ⟨.inside, some b.height, []⟩

end OpenClass

/-! ## Reading -/

/-- What the next character is taken for when it is asked whether a dash makes a range. Blanks are
passed over, and one number sign with the blanks behind it, but no comment. -/
def lookAhead (m : Mode) (cs : List Char) : Option Char :=
  if m.spaced then
    match cs.dropWhile isBlank with
    | '#' :: rest => (rest.dropWhile isBlank).head?
    | rest => rest.head?
  else cs.head?

/-- What follows a range or a single element that begins with a character. -/
def item? (m : Mode) (c : Char) (rest : List Char) : Option (List Char) := do
  let (first, rest) ← Element.ofCharInBrackets? m c rest
  match m.skip rest with
  | '-' :: behind =>
      if lookAhead m behind == some ']' || lookAhead m behind == some '-' then
        if first.fitsInBrackets m then some ('-' :: behind) else none
      else
        match m.skip behind with
        | [] => none
        | d :: rest => do
            let (last, rest) ← Element.ofCharInBrackets? m d rest
            match first, last with
            | .literal a _, .literal b _ =>
                if a ≤ b && first.fitsInBrackets m && last.fitsInBrackets m then some rest else none
            | _, _ => none
  | rest => if first.fitsInBrackets m then some rest else none

/-- Whether two characters are an operator. -/
def isOperator (c : Char) (next : Option Char) : Bool :=
  (c == '&' || c == '-' || c == '~') && next == some c

/-- One step in an open class that lies in others: what is open then, the innermost first, or the
height of the class that has been closed last, and what follows. -/
def bracketStep? (m : Mode) (b : OpenClass) (outer : List OpenClass) (c : Char)
    (rest : List Char) : Option ((Nat ⊕ OpenClass × List OpenClass) × List Char) :=
  if c == '^' && b.stage == .opened then
    if m.unicode then some (.inr ({ b with stage := .leading }, outer), rest) else none
  else if c == '-' && b.stage != .inside then some (.inr (b.add .leading 0, outer), rest)
  else if c == ']' && b.stage != .inside && b.items.isEmpty then
    some (.inr (b.add .inside 0, outer), rest)
  else if c == ']' then
    match outer with
    | [] => some (.inl (b.height + 1), rest)
    | around :: outer => some (.inr (around.add .inside (b.height + 1), outer), rest)
  else if c == '[' then
    match namedClass? rest with
    | some (negated, rest) =>
        if negated && !m.unicode then none else some (.inr (b.add .inside 0, outer), rest)
    | none => some (.inr (.empty, b :: outer), rest)
  else if isOperator c rest.head? then some (.inr (b.operate, outer), rest.drop 1)
  else (item? m c rest).map fun rest => (.inr (b.add .inside 0, outer), rest)

/-- The rest of open classes, with fuel for each character. -/
def bracketedFrom? (m : Mode) :
    Nat → OpenClass → List OpenClass → List Char → Option (Nat × List Char)
  | 0, _, _, _ => none
  | fuel + 1, b, outer, cs =>
      match m.skip cs with
      | [] => none
      | c :: rest =>
          match bracketStep? m b outer c rest with
          | none => none
          | some (.inl height, rest) => some (height, rest)
          | some (.inr (b, outer), rest) => bracketedFrom? m fuel b outer rest

/-- The height of the class that begins behind a bracket, and what follows it. -/
def bracketed? (m : Mode) (cs : List Char) : Option (Nat × List Char) :=
  bracketedFrom? m cs.length .empty [] cs

end StudyHall.Pattern
