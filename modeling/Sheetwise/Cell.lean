import Sheetwise.Fault
import Sheetwise.SortedMap
import Sheetwise.Text.Shortest

/-!
# Cell values and rows

A cell holds a truth value, a number or a text. A number that is whole and small enough to be exact
is kept as an integer, so that `42.0` in a file comes out as `42`. A row holds the cells of one row
that are not empty, by column, and the targets of its links.
-/

namespace Sheetwise

/-- The value of a cell. -/
inductive CellValue where
  | bool (b : Bool)
  | int (n : Int)
  | float (x : Float)
  | text (s : String)
deriving Inhabited

namespace CellValue

/-- Whole numbers of a smaller magnitude are exact as doubles. -/
def exactLimit : Nat := 9007199254740992

/-- A number, as an integer if it is whole and exact. -/
def number (x : Float) : CellValue :=
  if Binary64.isWhole x ∧ (Binary64.truncate x).natAbs < exactLimit then .int (Binary64.truncate x)
  else .float x

/-- Whether a value is nothing but blanks. -/
def isEmpty : CellValue → Bool
  | .text s => Text.isBlankText s
  | _ => false

/-- The text that a value is, if it is one. -/
def asText? : CellValue → Option String
  | .text s => some s
  | _ => none

/-- A value as it is shown. -/
def display : CellValue → String
  | .bool true => "TRUE"
  | .bool false => "FALSE"
  | .int n => Text.ofInt n
  | .float x => Text.ofFloat x
  | .text s => s

end CellValue

/-- One row of a sheet, with its cells and links by column. Rows are numbered from one. -/
structure Row where
  number : Nat
  cells : SortedMap Nat CellValue := ∅
  links : Option (SortedMap Nat String) := none
deriving Inhabited

namespace Row

/-- Whether the row has no cells. -/
def isEmpty (row : Row) : Bool := row.cells.isEmpty

/-- Whether there is something in the row, a cell or a link map. -/
def isOccupied (row : Row) : Bool := !row.cells.isEmpty || row.links.isSome

/-- Whether every column used by the row lies from `c1` to `c2`. -/
def withinColumns (row : Row) (c1 c2 : Nat) : Bool :=
  let inside (c : Nat) : Bool := decide (c1 ≤ c) && decide (c ≤ c2)
  row.cells.keys.all inside &&
    match row.links with
    | none => true
    | some links => links.keys.all inside

/-- The row with its columns from `c1` to `c2` only, and without a link map if none are left. -/
def restrict (row : Row) (c1 c2 : Nat) : Checked Row := do
  let cells ← row.cells.range c1 c2
  let links ← row.links.mapM fun links => links.range c1 c2
  return { number := row.number, cells, links := links.filter fun links => !links.isEmpty }

end Row

end Sheetwise
