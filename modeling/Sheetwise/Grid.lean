import Sheetwise.Cell
import Sheetwise.Metrics

/-!
# Sheet grids

What is known of the cells of one sheet, each kind of fact in a sparse map of its own: values, link
targets, fill colours, and which cells are formatted or bordered. Rows, colours and table candidates
are all derived from it. A blank text is not a value, so every cell in the map of values is a
non-empty one.
-/

namespace Sheetwise

/-- The facts known of a sheet's cells. -/
structure Grid where
  /-- The values of the cells that are not empty. -/
  cells : SortedMap Address CellValue := ∅
  /-- The targets of links. -/
  links : SortedMap Address String := ∅
  /-- The fill colours, as six hexadecimal digits in upper case. -/
  fills : SortedMap Address String := ∅
  /-- The cells that are there, with a value or only a format. -/
  styled : SortedSet Address := ∅
  /-- The cells with a border on some side. -/
  borders : SortedSet Address := ∅
  /-- The ranges that the sheet declares to be tables. -/
  declaredTables : List String := []
  metrics : Metrics := .standard
deriving Inhabited

namespace Grid

/-- Puts a value into a cell; blank text empties it. -/
def setValue (g : Grid) (a : Address) (v : CellValue) : Grid :=
  { g with
    styled := SortedSet.insert g.styled a
    cells := if v.isEmpty then g.cells.erase a else g.cells.insert a v }

/-- Attaches a link to a cell. -/
def setLink (g : Grid) (a : Address) (target : String) : Grid :=
  { g with links := g.links.insert a target }

/-- Gives a cell a fill colour. -/
def setFill (g : Grid) (a : Address) (color : String) : Grid :=
  { g with fills := g.fills.insert a color }

/-- Marks a cell as being there. -/
def setStyled (g : Grid) (a : Address) : Grid :=
  { g with styled := SortedSet.insert g.styled a }

/-- Marks a cell as bordered. -/
def setBorder (g : Grid) (a : Address) : Grid :=
  { g with borders := SortedSet.insert g.borders a }

/-- Takes the border off a cell. -/
def clearBorder (g : Grid) (a : Address) : Grid :=
  { g with borders := g.borders.erase a }

/-- Adds a declared table. -/
def addTable (g : Grid) (reference : String) : Grid :=
  { g with declaredTables := g.declaredTables ++ [reference] }

/-- The value of a cell, if it is not empty. -/
def value? (g : Grid) (a : Address) : Option CellValue := g.cells.get? a

/-- The smallest rectangle around all values, if there are any. -/
def usedRect? (g : Grid) : Option Rect :=
  match g.cells.keys with
  | [] => none
  | a :: rest =>
    some (rest.foldl (fun b a => b.union (.cell a.row a.col)) (.cell a.row a.col))

/-- The scan of a rectangle: of the cells from its first to its last one, those in its columns. -/
def scan (g : Grid) (b : Rect) : Checked (List Address) :=
  (g.cells.range b.first b.last).map fun found =>
    found.keys.filter fun a => decide (b.c1 ≤ a.col) && decide (a.col ≤ b.c2)

/-- A rectangle can be scanned, since it does not end before it begins. -/
theorem isOk_scan (g : Grid) (b : Rect) : (g.scan b).isOk = true := by
  rw [scan, SortedMap.range_of_not_lt _ b.not_last_lt_first]
  rfl

/-- The cells with a value inside a rectangle. -/
def keysIn (g : Grid) (b : Rect) : List Address := (g.scan b).value (g.isOk_scan b)

/-- The number of values inside a rectangle. -/
def countIn (g : Grid) (b : Rect) : Nat := (g.keysIn b).length

/-- The rows with a value inside a rectangle. -/
def rowsIn (g : Grid) (b : Rect) : SortedSet Nat := SortedSet.ofList ((g.keysIn b).map Address.row)

/-- The columns with a value inside a rectangle. -/
def colsIn (g : Grid) (b : Rect) : SortedSet Nat := SortedSet.ofList ((g.keysIn b).map Address.col)

/-- The entries of one row of a map, by column. -/
def rowOf {α : Type} (m : SortedMap Address α) (row : Nat) : SortedMap Nat α :=
  SortedMap.ofList ((m.toList.filter fun e => e.1.row == row).map fun e => (e.1.col, e.2))

/-- The rows with a value, or with a link if these count. -/
def rowNumbers (g : Grid) (includeLinks : Bool) : SortedSet Nat :=
  SortedSet.ofList
    (g.cells.keys.map Address.row ++ if includeLinks then g.links.keys.map Address.row else [])

/-- The sheet as rows, in order. A link on an empty cell keeps its row. -/
def toRows (g : Grid) (includeLinks : Bool) : List Row :=
  (g.rowNumbers includeLinks).keys.map fun r =>
    let links := rowOf g.links r
    { number := r + 1
      cells := rowOf g.cells r
      links := if includeLinks && !links.isEmpty then some links else none }

end Grid

end Sheetwise
