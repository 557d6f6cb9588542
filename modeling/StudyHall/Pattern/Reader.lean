import StudyHall.Pattern.Bracket
import StudyHall.Text.Letter

/-!
# Reading patterns

Elements and classes in brackets stand in rows; each may be repeated. Bars divide a row into
alternatives, and parentheses make a group of them. Groups may have names, no two the same, and a
group may begin with switches of the mode, which hold up to its end; switches in a group of their
own hold up to the end of the group around them.

The service matches no texts. It has to know whether characters are a pattern, and whether it asks
for edges of words in every script, which an automaton over bytes does not see. The characters
come from between braces, so that there is no closing brace among them and a count, which would
begin with the opening one, never ends.

## Main definitions

* `Pattern.ofChars?` reads a pattern.
-/

namespace StudyHall

open Text

/-- What is known of a pattern. -/
structure Pattern where
  /-- Whether it asks for edges of words in every script. -/
  asksForWords : Bool
  deriving DecidableEq, Repr

namespace Pattern

/-! ## Rows -/

/-- One item of a row. -/
inductive Item where
  /-- A switch of the mode, which cannot be repeated. -/
  | switch
  /-- Something of a height. -/
  | part (height : Nat)
  deriving DecidableEq, Repr

/-- The height of an item. -/
def Item.height : Item → Nat
  | .switch => 0
  | .part h => h

/-- Alternatives of which the last is being read. -/
structure Row where
  /-- The heights of the alternatives before the last. -/
  branches : List Nat
  /-- The items of the last one, the last first. -/
  items : List Item
  deriving DecidableEq, Repr

namespace Row

/-- The row without anything in it. -/
def empty : Row := ⟨[], []⟩

/-- The row with another item. -/
def add (r : Row) (i : Item) : Row :=
  { r with items := i :: r.items }

/-- The height of the last alternative. -/
def lastHeight (r : Row) : Nat :=
  heightOf (r.items.map Item.height)

/-- The row with a new alternative. -/
def branch (r : Row) : Row :=
  ⟨r.lastHeight :: r.branches, []⟩

/-- The height of all alternatives. -/
def height (r : Row) : Nat :=
  heightOf (r.lastHeight :: r.branches)

/-- The row with its last item repeated, if that can be. -/
def repeat? (r : Row) : Option Row :=
  match r.items with
  | .part h :: items => some { r with items := .part (h + 1) :: items }
  | _ => none

end Row

/-! ## Switches and names -/

/-- Whether characters are switches: some of the known ones, none twice, and after a minus sign at
least one. -/
def isSwitches (cs : List Char) : Bool :=
  cs.all (fun c => "imsUuRx-".toList.contains c) && decide cs.Nodup && cs.getLast? != some '-'

/-- The setting of one switch: on before the minus sign, off behind it, or else as it was. -/
def setting (switch : Char) (before : Bool) (cs : List Char) : Bool :=
  if (cs.takeWhile (· != '-')).contains switch then true
  else if cs.contains switch then false
  else before

/-- The mode after switches. -/
def Mode.switch (m : Mode) (cs : List Char) : Mode :=
  ⟨setting 'x' m.spaced cs, setting 'u' m.unicode cs⟩

/-- Whether characters are the name of a group. -/
def isGroupName : List Char → Bool
  | [] => false
  | c :: cs =>
      (c == '_' || isAlphabetic c)
        && cs.all fun c => c == '_' || c == '.' || c == '[' || c == ']' || isAlphanumeric c

/-! ## Reading -/

/-- A pattern that has been read up to some point. -/
structure Reading where
  mode : Mode
  row : Row
  /-- What lies around the open groups, the innermost first. -/
  around : List (Row × Mode)
  /-- The names of groups. -/
  names : List (List Char)
  /-- Whether an edge of words in every script was among the elements. -/
  asksForWords : Bool
  deriving DecidableEq

namespace Reading

/-- The pattern of which nothing has been read. -/
def initial : Reading := ⟨.initial, .empty, [], [], false⟩

/-- The reading with another item. -/
def add (r : Reading) (i : Item) : Reading :=
  { r with row := r.row.add i }

/-- The reading within a new group. -/
def descend (r : Reading) (mode : Mode) : Reading :=
  { r with mode := mode, row := .empty, around := (r.row, r.mode) :: r.around }

/-- The reading after the end of a group, if one is open. -/
def ascend? (r : Reading) : Option Reading :=
  match r.around with
  | [] => none
  | (row, mode) :: around =>
      some { r with mode := mode, row := row.add (.part (r.row.height + 1)), around := around }

/-- The reading within a group that begins with its name. -/
def descendNamed? (r : Reading) (cs : List Char) : Option (Reading × List Char) :=
  let name := cs.takeWhile (· != '>')
  match cs.dropWhile (· != '>') with
  | [] => none
  | _ :: rest =>
      if isGroupName name && !r.names.contains name then
        some ({ r with names := name :: r.names }.descend r.mode, rest)
      else none

/-- The reading after switches, within their group or behind it. -/
def switch? (r : Reading) (cs : List Char) : Option (Reading × List Char) :=
  let switches := cs.takeWhile fun c => c != ':' && c != ')'
  if isSwitches switches then
    match cs.dropWhile fun c => c != ':' && c != ')' with
    | ':' :: rest => some (r.descend (r.mode.switch switches), rest)
    | ')' :: rest =>
        if switches.isEmpty then none
        else some ({ r with mode := r.mode.switch switches }.add .switch, rest)
    | _ => none
  else none

/-- The reading within or behind the group that begins behind a parenthesis. -/
def group? (r : Reading) : List Char → Option (Reading × List Char)
  | '?' :: 'P' :: '<' :: cs => r.descendNamed? cs
  | '?' :: '<' :: cs => r.descendNamed? cs
  | '?' :: cs => r.switch? cs
  | cs => some (r.descend r.mode, cs)

/-- The reading after one element. -/
def element? (r : Reading) (c : Char) (rest : List Char) : Option (Reading × List Char) := do
  let (e, rest) ← Element.ofChar? r.mode c rest
  if e.fits r.mode then
    let words := r.asksForWords || (e == .wordEdge && r.mode.unicode)
    some ({ r with asksForWords := words }.add (.part 0), rest)
  else none

/-- The reading after what a character begins, and what follows. -/
def step? (r : Reading) (c : Char) (rest : List Char) : Option (Reading × List Char) :=
  match c with
  | '(' => r.group? (r.mode.skip rest)
  | ')' => r.ascend?.map fun r => (r, rest)
  | '|' => some ({ r with row := r.row.branch }, rest)
  | '[' => (bracketed? r.mode rest).map fun (height, rest) => (r.add (.part height), rest)
  | '\x7b' => none
  | _ =>
      if c == '?' || c == '*' || c == '+' then
        r.row.repeat?.map fun row => ({ r with row := row }, rest)
      else r.element? c rest

/-- The pattern that has been read, if no group is open and it is not too high. -/
def finish? (r : Reading) : Option Pattern :=
  if r.around.isEmpty && r.row.height ≤ maxHeight then some ⟨r.asksForWords⟩ else none

/-- The rest of a pattern, with fuel for each character. -/
def run? : Nat → Reading → List Char → Option Pattern
  | fuel, r, cs =>
      match r.mode.skip cs with
      | [] => r.finish?
      | c :: rest =>
          match fuel with
          | 0 => none
          | fuel + 1 => (r.step? c rest).bind fun (r, rest) => run? fuel r rest

end Reading

/-- The pattern that characters are. -/
def ofChars? (cs : List Char) : Option Pattern :=
  Reading.run? cs.length .initial cs

end Pattern

end StudyHall
