import Sheetwise.Reference
import Sheetwise.Sheet

/-!
# Views of print areas

A view shows a sheet through one print area: the graphics and charts that touch the area, the rows
with what they hold in its columns, and the table candidates that lie inside. A view may be moved so
that the area's corner is the first cell and the origin of positions.

Nothing is assumed of the area. One at the end of what can be numbered, or one whose columns run
backwards across a row that has some, has no view and ends in a fault.
-/

namespace Sheetwise

/-- A sheet seen through a print area. -/
structure View where
  sheetName : String
  area : PrintArea
  shapes : List Graphic
  charts : List Chart
  rows : List Row
  tableCandidates : List String
  /-- The position of the area's corner, subtracted when the view is moved. -/
  originX : Int
  originY : Int

/-- Which views to build, and whether to move them. -/
structure ViewOptions where
  /-- Move every view to the corner of its area. -/
  normalize : Bool := false
  /-- Also build the views of the pages. -/
  includeAutoPageBreaks : Bool := false

namespace View

/--
A row as it is seen through an area: whole if all its columns are inside, and else with what is. A
row without anything is not seen.
-/
def rowThrough (area : PrintArea) (row : Row) : Checked (Option Row) := do
  let seen ← if row.withinColumns area.c1 area.c2 then pure row else row.restrict area.c1 area.c2
  return if seen.isOccupied then some seen else none

/-- The rows of a sheet as they are seen through an area. -/
def rowsThrough (area : PrintArea) (rows : List Row) : Checked (List Row) := do
  let seen ← (rows.filter fun row => area.containsRow row.number).mapM (rowThrough area)
  return seen.filterMap id

/-- Whether a table candidate lies in an area. -/
def containsCandidate (area : PrintArea) (candidate : String) : Bool :=
  match Reference.rect? candidate with
  | some b => area.containsRect b
  | none => false

/-- The keys of a map moved to the left. -/
def shiftColumns {α : Type} (m : SortedMap Nat α) (offset : Nat) : Checked (SortedMap Nat α) := do
  let entries ← m.toList.mapM fun e => return (← Word.sub e.1 offset, e.2)
  return SortedMap.ofList entries

/-- A row moved so that the area's corner is the first cell. -/
def shiftRow (area : PrintArea) (row : Row) : Checked Row := do
  let number ← Word.add (← Word.sub row.number area.r1) 1
  let cells ← shiftColumns row.cells area.c1
  let links ← row.links.mapM fun links => shiftColumns links area.c1
  return { number, cells, links }

/-- A table candidate moved so that the area's corner is the first cell. -/
def shiftCandidate (area : PrintArea) (candidate : String) : Checked String :=
  match Reference.rect? candidate with
  | none => return candidate
  | some b => do
    let rows := area.r1 - 1
    let r1 ← Word.sub b.r1 rows
    let c1 ← Word.sub b.c1 area.c1
    let r2 ← Word.sub b.r2 rows
    let c2 ← Word.sub b.c2 area.c1
    return (Rect.ofCorners r1 c1 r2 c2).text

/-- The view moved so that rows count from one, columns from zero, and positions from the origin. -/
def normalize (v : View) : Checked View := do
  let rows ← v.rows.mapM (shiftRow v.area)
  let tableCandidates ← v.tableCandidates.mapM (shiftCandidate v.area)
  let shapes ← v.shapes.mapM fun g => g.rebase v.originX v.originY
  let charts ← v.charts.mapM fun c => c.rebase v.originX v.originY
  return { v with rows, tableCandidates, shapes, charts, originX := 0, originY := 0 }

/-- The view of a sheet through an area, where it lies on the sheet. -/
def ofArea {α : Type} [Quantity α] (name : String) (sheet : Sheet α) (area : PrintArea) :
    Checked View := do
  let box ← sheet.metrics.areaBox area
  let rows ← rowsThrough area sheet.rows
  return {
    sheetName := name
    area
    shapes := sheet.shapes.filter fun g => g.box.touches box
    charts := sheet.charts.filter fun c => c.box.touches box
    rows
    tableCandidates := sheet.tableCandidates.filter (containsCandidate area)
    originX := Quantity.toPosition box.left
    originY := Quantity.toPosition box.top }

/-- The view of a sheet through an area. -/
def build {α : Type} [Quantity α] (name : String) (sheet : Sheet α) (area : PrintArea)
    (options : ViewOptions) : Checked View := do
  let view ← ofArea name sheet area
  if options.normalize then view.normalize else return view

/-- The areas of a sheet that have views. -/
def areas {α : Type} (sheet : Sheet α) (options : ViewOptions) : List PrintArea :=
  sheet.printAreas ++ if options.includeAutoPageBreaks then sheet.autoPrintAreas else []

end View

/-- The views of all print areas of a workbook, sheet by sheet. -/
def Workbook.views {α : Type} [Quantity α] (w : Workbook α) (options : ViewOptions) :
    Checked (List View) := do
  let views ← w.sheets.toList.mapM fun e =>
    (View.areas e.2 options).mapM fun area => View.build e.1 e.2 area options
  return views.flatten

end Sheetwise
