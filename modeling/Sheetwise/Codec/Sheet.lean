import Sheetwise.Codec.Cell
import Sheetwise.Codec.Graphic
import Sheetwise.Sheet
import Sheetwise.View

/-!
# Workbooks in JSON

A workbook is written with its sheets as the members of one object, in their order. The sizes of rows
and columns are not written, so a workbook that is read has the standard ones.
-/

namespace Sheetwise

/-- The cells of each colour as a JSON value. -/
def colorsToJson (colors : ColorMap) : Json :=
  .obj (colors.toList.map fun e =>
    (e.1, .list (fun (cell : Nat × Nat) => .arr [.nat cell.1, .nat cell.2]) e.2))

/-- The cells of each colour that a JSON value stands for. -/
def colorsOfJson? (j : Json) : Option ColorMap :=
  (j.entries? some (Json.list? (Json.pair? Json.word? Json.word?))).map SortedMap.ofList

namespace Sheet

/-- The fields of a sheet. -/
def fieldNames : List String :=
  ["rows", "shapes", "charts", "table_candidates", "print_areas", "auto_print_areas",
   "colors_map"]

/-- How much of a written sheet is read. Graphics are read whole, unknown members included. -/
def outline : Json.Outline := .record fieldNames fun
  | "rows" => .list Row.outline
  | "charts" => .list Chart.outline
  | "print_areas" => .list PrintArea.outline
  | "auto_print_areas" => .list PrintArea.outline
  | _ => .whole

/-- A sheet as a JSON value. -/
def toJson {α : Type} (s : Sheet α) : Json :=
  .obj [("rows", .list Row.toJson s.rows), ("shapes", .list Graphic.toJson s.shapes),
    ("charts", .list Chart.toJson s.charts), ("table_candidates", .list .str s.tableCandidates),
    ("print_areas", .list PrintArea.toJson s.printAreas),
    ("auto_print_areas", .list PrintArea.toJson s.autoPrintAreas),
    ("colors_map", colorsToJson s.colors)]

/-- The sheet that a JSON value stands for. -/
def ofJson? (j : Json) : Option Sheet := do
  let r ← j.fields? fieldNames
  let rows ← r.required? "rows" (Json.list? Row.ofJson?)
  let shapes ← r.required? "shapes" (Json.list? Graphic.ofJson?)
  let charts ← r.required? "charts" (Json.list? Chart.ofJson?)
  let tableCandidates ← r.required? "table_candidates" (Json.list? Json.str?)
  let printAreas ← r.required? "print_areas" (Json.list? PrintArea.ofJson?)
  let autoPrintAreas ← r.required? "auto_print_areas" (Json.list? PrintArea.ofJson?)
  let colors ← r.required? "colors_map" colorsOfJson?
  return {
    rows, shapes, charts, tableCandidates, printAreas, autoPrintAreas, colors
    metrics := .standard }

end Sheet

/-- Sheets by name as a JSON value. -/
def sheetsToJson {α : Type} (sheets : Named (Sheet α)) : Json :=
  .obj (sheets.toList.map fun e => (e.1, e.2.toJson))

/-- The sheets that a JSON value stands for; a repeated name replaces the sheet it repeats. -/
def sheetsOfJson? (j : Json) : Option (Named Sheet) :=
  (j.entries? some Sheet.ofJson?).map Named.ofList

namespace Workbook

/-- The fields of a workbook. -/
def fieldNames : List String := ["book_name", "sheets"]

/-- How much of a written workbook is read. -/
def outline : Json.Outline := .record fieldNames fun
  | "sheets" => .named Sheet.outline
  | _ => .whole

/-- A workbook as a JSON value. -/
def toJson {α : Type} (w : Workbook α) : Json :=
  .obj [("book_name", .str w.bookName), ("sheets", sheetsToJson w.sheets)]

/-- The workbook that a JSON value stands for. -/
def ofJson? (j : Json) : Option Workbook := do
  let r ← j.fields? fieldNames
  let bookName ← r.required? "book_name" Json.str?
  let sheets ← r.required? "sheets" sheetsOfJson?
  return { bookName, sheets }

/-- Reads a workbook from a text. Members that it does not know only have to be well formed. -/
def ofText? (s : String) : Option Workbook := do
  let written ← outline (← Json.Written.ofText? s)
  ofJson? (← written.value? Json.maxDepth)

end Workbook

/-- A view as a JSON value. -/
def View.toJson (v : View) : Json :=
  .obj [("sheet_name", .str v.sheetName), ("area", v.area.toJson),
    ("shapes", .list Graphic.toJson v.shapes), ("charts", .list Chart.toJson v.charts),
    ("rows", .list Row.toJson v.rows), ("table_candidates", .list .str v.tableCandidates)]

end Sheetwise
