import Sheetwise.Grid
import Sheetwise.Reference
import Sheetwise.Reported.Basic

/-!
# Grids from reported ranges

The used range that the application reports, as a grid that counts from zero. A row or column
reported as zero, which the application does not have, counts as the first.
-/

namespace Sheetwise.Reported

/-- The place of a cell reported by its row and column. -/
def place (row col : Nat) : Address := ⟨row - 1, col - 1⟩

/-- Puts a reported value into a cell. A cell without a value is only marked as being there. -/
def Value.put (g : Grid) (a : Address) : Value → Grid
  | .null => g.setStyled a
  | .bool b => g.setValue a (.bool b)
  | .number x => g.setValue a (.number x)
  | .text s => g.setValue a (.text s)
  | .error code => g.setValue a (.text code)

/-- Puts a reported cell into a grid. -/
def Cell.put (g : Grid) (c : Cell) : Grid :=
  let a := place c.row c.col
  let g := c.value.put g a
  let g := match c.fill with
    | some fill => g.setFill a (Text.upper fill)
    | none => g
  if c.border then g.setBorder a else g

/-- The grid of a reported range. -/
def UsedRange.grid (u : UsedRange) : Grid :=
  let g := u.cells.foldl Cell.put {}
  let g := u.links.foldl (fun g l => g.setLink (place l.row l.col) l.target) g
  { g with
    declaredTables := u.tables.filterMap fun t => (Reference.rect? t).map Rect.text
    metrics := {
      defaultRowHeight := u.defaultRowHeight
      defaultColWidth := u.defaultColWidth
      rowHeights := SortedMap.ofList u.rowHeights
      colWidths := SortedMap.ofList (u.colWidths.map fun e => (e.1 - 1, e.2)) } }

end Sheetwise.Reported
