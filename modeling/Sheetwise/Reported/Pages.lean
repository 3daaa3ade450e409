import Sheetwise.PrintArea
import Sheetwise.Reported.Basic

/-!
# Pages of print areas

A print area is cut into pages before every row and every column that starts one. The pages come row
by row, and together they are the area.
-/

namespace Sheetwise.Reported

/-- The distinct numbers after `first` and up to `last` among `breaks`, in order. -/
def cuts (first last : Nat) (breaks : List Nat) : List Nat :=
  (SortedSet.ofList (breaks.filter fun b => decide (first < b) && decide (b ≤ last))).keys

/-- The stretches between neighbours of a list of starts, each ending before the next start. -/
def stretches : List Nat → List (Nat × Nat)
  | a :: b :: rest => (a, b - 1) :: stretches (b :: rest)
  | _ => []

/--
The numbers from `first` to `last` cut before each break. The end is marked by the number after
`last`, which no word exceeds.
-/
def spans (first last : Nat) (breaks : List Nat) : List (Nat × Nat) :=
  stretches (first :: cuts first last breaks ++ [min (last + 1) Word.max])

/-- The pages of one area, row by row. -/
def Area.pages (a : Area) (rowBreaks colBreaks : List Nat) : List PrintArea :=
  let rows := spans (min a.firstRow a.lastRow) (max a.firstRow a.lastRow) rowBreaks
  let cols := spans (min a.firstCol a.lastCol) (max a.firstCol a.lastCol) colBreaks
  rows.flatMap fun r => cols.map fun c => PrintArea.ofCorners r.1 c.1 r.2 c.2

/-- The pages of all areas of a sheet. -/
def PageBreaks.pages (p : PageBreaks) : List PrintArea :=
  p.areas.flatMap fun a => a.pages p.rowBreaks p.colBreaks

end Sheetwise.Reported
