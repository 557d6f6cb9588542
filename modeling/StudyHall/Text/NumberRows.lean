import StudyHall.Bytes.Hex
import StudyHall.Text.Blank

/-!
# Tables written as text

A large table of numbers is held as one text: rows are set apart by blanks, the numbers of a row
by commas, and a number is hexadecimal. The reader takes one character at a time and keeps what is
finished behind it, so a long text needs no deep recursion.
-/

namespace StudyHall.Text

/-! ## Reading -/

/-- How far the reading of a table has come. -/
structure RowsRead where
  /-- The number whose digits are being read. -/
  number : Option Nat := none
  /-- The finished numbers of the row, latest first. -/
  row : List Nat := []
  /-- The finished rows, latest first. -/
  rows : List (List Nat) := []

/-- The number is finished. -/
def RowsRead.endNumber (r : RowsRead) : RowsRead :=
  match r.number with
  | none => r
  | some n => { r with number := none, row := n :: r.row }

/-- The row is finished; a row without numbers is none. -/
def RowsRead.endRow (r : RowsRead) : RowsRead :=
  match r.endNumber.row with
  | [] => r.endNumber
  | row => { number := none, row := [], rows := row.reverse :: r.rows }

/-- One character more. -/
def RowsRead.step (r : RowsRead) (c : Char) : RowsRead :=
  match Hex.digitValue? c with
  | some d => { r with number := some (16 * r.number.getD 0 + d) }
  | none => if isBlank c then r.endRow else r.endNumber

/-- The rows of a table. -/
def numberRows (s : String) : List (List Nat) :=
  (s.toList.foldl RowsRead.step {}).endRow.rows.reverse

/-! ## Looking up -/

/-- The row that begins with `n`, without it. -/
def rowAfter? (rows : List (List Nat)) (n : Nat) : Option (List Nat) :=
  rows.findSome? fun
    | m :: rest => if m = n then some rest else none
    | [] => none

/-- The row whose first two numbers enclose `n`, without the second of them. -/
def rowAround? (rows : List (List Nat)) (n : Nat) : Option (List Nat) :=
  rows.findSome? fun
    | first :: last :: rest => if first ≤ n ∧ n ≤ last then some (first :: rest) else none
    | _ => none

end StudyHall.Text
