import Sheetwise.PrintArea
import Sheetwise.Quantity
import Sheetwise.SortedMap

/-!
# Row heights and column widths

Where the edges of rows and columns lie, in the coordinates of the shapes on a sheet. Most rows and
columns have the default size, so an edge lies at a multiple of the default, corrected by the ones
before it that have a size of their own.

Lengths are measured in any type of quantities. Running, it is the doubles; in exact numbers the same
definitions say what the doubles approximate.
-/

namespace Sheetwise

/-- The sizes of the rows and columns of a sheet. Rows are numbered from one, columns from zero. -/
structure Metrics (α : Type := Float) where
  defaultRowHeight : α
  defaultColWidth : α
  rowHeights : SortedMap Nat α := ∅
  colWidths : SortedMap Nat α := ∅

/-- The sizes of a sheet that sets none. -/
def Metrics.standard : Metrics where
  defaultRowHeight := 15
  defaultColWidth := 48

instance : Inhabited Metrics := ⟨.standard⟩

/-- The edges of a rectangle on a sheet. -/
structure Box (α : Type) where
  left : α
  top : α
  right : α
  bottom : α

namespace Metrics

variable {α : Type} [Quantity α]

/-- A sum from left to right. It starts from minus zero, which changes no number it is added to. -/
def sum (xs : List α) : α := xs.foldl (· + ·) (-0)

/-- How much the sizes below `bound` differ from the default, all together. -/
def adjustment (sizes : SortedMap Nat α) (default : α) (bound : Nat) : α :=
  sum ((sizes.toList.takeWhile fun e => decide (e.1 < bound)).map fun e => e.2 - default)

/-- The distance from the top of the sheet to the top of the row numbered `r`. -/
def rowTop (m : Metrics α) (r : Nat) : α :=
  Quantity.ofInt ((r - 1 : Nat) : Int) * m.defaultRowHeight +
    adjustment m.rowHeights m.defaultRowHeight (max r 1)

/-- The distance from the left of the sheet to the left of column `c`. -/
def colLeft (m : Metrics α) (c : Nat) : α :=
  Quantity.ofInt (c : Int) * m.defaultColWidth + adjustment m.colWidths m.defaultColWidth c

/-- The edges of a print area, if the row and the column after it can be numbered. -/
def areaBox (m : Metrics α) (area : PrintArea) : Checked (Box α) := do
  let right ← Word.add area.c2 1
  let bottom ← Word.add area.r2 1
  return {
    left := m.colLeft area.c1
    top := m.rowTop area.r1
    right := m.colLeft right
    bottom := m.rowTop bottom }

end Metrics

end Sheetwise
