import Sheetwise.Json.Record
import Sheetwise.Reported.Basic

/-!
# Reports in JSON

What the application reports, as it travels between the bridge and its client. Reading, a field may
be left out where it has a usual value; writing, every field is there.
-/

namespace Sheetwise.Reported

/-- The value of a cell as a JSON value. -/
def Value.toJson : Value → Json
  | .null => .null
  | .bool b => .bool b
  | .number x => .number x
  | .text s => .str s
  | .error code => .obj [("code", .str code)]

/-- The value of a cell that a JSON value stands for. -/
def Value.ofJson? : Json → Option Value
  | .null => some .null
  | .bool b => some (.bool b)
  | .str s => some (.text s)
  | j => (j.float?.map .number).or do
      let r ← j.fields? ["code"]
      return .error (← r.required? "code" Json.str?)

/-- The value of a cell as it is shown. -/
def Value.display : Value → String
  | .null => "<empty>"
  | .bool true => "TRUE"
  | .bool false => "FALSE"
  | .number x => Text.ofFloat x
  | .text s => s
  | .error code => code

/-- Whether a value is none. -/
def Value.isNull : Value → Bool
  | .null => true
  | _ => false

/-- An item of a diagram as a JSON value. -/
def itemToJson (i : Diagram.Item) : Json := .obj [("level", .nat i.1), ("text", .str i.2)]

/-- The item of a diagram that a JSON value stands for. -/
def itemOfJson? (j : Json) : Option Diagram.Item := do
  let r ← j.fields? ["level", "text"]
  return (← r.required? "level" Json.word?, ← r.required? "text" Json.str?)

namespace Drawing

/-- The fields of a drawing. -/
def fieldNames : List String :=
  ["id", "name", "text", "left", "top", "width", "height", "mso_type", "autoshape_type",
   "autoshape_name", "rotation", "has_smartart", "smartart_layout", "smartart_nodes",
   "begin_arrow_style", "end_arrow_style", "is_connector", "begin_connected_id",
   "end_connected_id", "flip_h", "flip_v"]

/-- A drawing as a JSON value. -/
def toJson (d : Drawing) : Json :=
  .obj [("id", .option .nat d.id), ("name", .str d.name), ("text", .str d.text),
    ("left", .number d.left), ("top", .number d.top), ("width", .number d.width),
    ("height", .number d.height), ("mso_type", .int d.typeCode),
    ("autoshape_type", .option .int d.autoShapeCode),
    ("autoshape_name", .option .str d.autoShapeName), ("rotation", .number d.rotation),
    ("has_smartart", .bool d.hasDiagram), ("smartart_layout", .option .str d.diagramLayout),
    ("smartart_nodes", .list itemToJson d.diagramItems),
    ("begin_arrow_style", .option .int d.beginArrowStyle),
    ("end_arrow_style", .option .int d.endArrowStyle), ("is_connector", .bool d.isConnector),
    ("begin_connected_id", .option .nat d.beginConnectedId),
    ("end_connected_id", .option .nat d.endConnectedId), ("flip_h", .bool d.flipHorizontal),
    ("flip_v", .bool d.flipVertical)]

/-- The drawing that a JSON value stands for. -/
def ofJson? (j : Json) : Option Drawing := do
  let r ← j.fields? fieldNames
  let id ← r.optional? "id" Json.word?
  let name ← r.required? "name" Json.str?
  let text ← r.orElse? "text" Json.str? ""
  let left ← r.required? "left" Json.float?
  let top ← r.required? "top" Json.float?
  let width ← r.required? "width" Json.float?
  let height ← r.required? "height" Json.float?
  let typeCode ← r.required? "mso_type" Json.int32?
  let autoShapeCode ← r.optional? "autoshape_type" Json.int32?
  let autoShapeName ← r.optional? "autoshape_name" Json.str?
  let rotation ← r.orElse? "rotation" Json.float? 0
  let hasDiagram ← r.orElse? "has_smartart" Json.bool? false
  let diagramLayout ← r.optional? "smartart_layout" Json.str?
  let diagramItems ← r.orElse? "smartart_nodes" (Json.list? itemOfJson?) []
  let beginArrowStyle ← r.optional? "begin_arrow_style" Json.int32?
  let endArrowStyle ← r.optional? "end_arrow_style" Json.int32?
  let isConnector ← r.orElse? "is_connector" Json.bool? false
  let beginConnectedId ← r.optional? "begin_connected_id" Json.word?
  let endConnectedId ← r.optional? "end_connected_id" Json.word?
  let flipHorizontal ← r.orElse? "flip_h" Json.bool? false
  let flipVertical ← r.orElse? "flip_v" Json.bool? false
  return {
    id, name, text, left, top, width, height, typeCode, autoShapeCode, autoShapeName, rotation,
    hasDiagram, diagramLayout, diagramItems, beginArrowStyle, endArrowStyle, isConnector,
    beginConnectedId, endConnectedId, flipHorizontal, flipVertical }

end Drawing

/-- A series as a JSON value. -/
def Series.toJson (s : Series) : Json := .obj [("name", .str s.name), ("formula", .str s.formula)]

/-- The series that a JSON value stands for. -/
def Series.ofJson? (j : Json) : Option Series := do
  let r ← j.fields? ["name", "formula"]
  let name ← r.orElse? "name" Json.str? ""
  let formula ← r.orElse? "formula" Json.str? ""
  return { name, formula }

namespace Chart

/-- The fields of a chart. -/
def fieldNames : List String :=
  ["name", "chart_type", "title", "y_axis_title", "y_axis_min", "y_axis_max", "series", "left",
   "top", "width", "height", "error"]

/-- A chart as a JSON value. -/
def toJson (c : Chart) : Json :=
  .obj [("name", .str c.name), ("chart_type", .int c.typeCode), ("title", .option .str c.title),
    ("y_axis_title", .str c.yAxisTitle), ("y_axis_min", .option .number c.yAxisMin),
    ("y_axis_max", .option .number c.yAxisMax), ("series", .list Series.toJson c.series),
    ("left", .number c.left), ("top", .number c.top), ("width", .number c.width),
    ("height", .number c.height), ("error", .option .str c.error)]

/-- The chart that a JSON value stands for. -/
def ofJson? (j : Json) : Option Chart := do
  let r ← j.fields? fieldNames
  let name ← r.required? "name" Json.str?
  let typeCode ← r.orElse? "chart_type" Json.int32? 0
  let title ← r.optional? "title" Json.str?
  let yAxisTitle ← r.orElse? "y_axis_title" Json.str? ""
  let yAxisMin ← r.optional? "y_axis_min" Json.float?
  let yAxisMax ← r.optional? "y_axis_max" Json.float?
  let series ← r.orElse? "series" (Json.list? Series.ofJson?) []
  let left ← r.required? "left" Json.float?
  let top ← r.required? "top" Json.float?
  let width ← r.required? "width" Json.float?
  let height ← r.required? "height" Json.float?
  let error ← r.optional? "error" Json.str?
  return {
    name, typeCode, title, yAxisTitle, yAxisMin, yAxisMax, series, left, top, width, height,
    error }

end Chart

namespace Area

/-- The fields of an area. -/
def fieldNames : List String := ["first_row", "first_col", "last_row", "last_col"]

/-- An area as a JSON value. -/
def toJson (a : Area) : Json :=
  .obj [("first_row", .nat a.firstRow), ("first_col", .nat a.firstCol),
    ("last_row", .nat a.lastRow), ("last_col", .nat a.lastCol)]

/-- The area that a JSON value stands for. -/
def ofJson? (j : Json) : Option Area := do
  let r ← j.fields? fieldNames
  let firstRow ← r.required? "first_row" Json.word?
  let firstCol ← r.required? "first_col" Json.word?
  let lastRow ← r.required? "last_row" Json.word?
  let lastCol ← r.required? "last_col" Json.word?
  return { firstRow, firstCol, lastRow, lastCol }

end Area

namespace PageBreaks

/-- The fields of page breaks. -/
def fieldNames : List String := ["areas", "row_breaks", "col_breaks"]

/-- Page breaks as a JSON value. -/
def toJson (p : PageBreaks) : Json :=
  .obj [("areas", .list Area.toJson p.areas), ("row_breaks", .list .nat p.rowBreaks),
    ("col_breaks", .list .nat p.colBreaks)]

/-- The page breaks that a JSON value stands for. -/
def ofJson? (j : Json) : Option PageBreaks := do
  let r ← j.fields? fieldNames
  let areas ← r.required? "areas" (Json.list? Area.ofJson?)
  let rowBreaks ← r.orElse? "row_breaks" (Json.list? Json.word?) []
  let colBreaks ← r.orElse? "col_breaks" (Json.list? Json.word?) []
  return { areas, rowBreaks, colBreaks }

end PageBreaks

namespace Cell

/-- The fields of a cell. -/
def fieldNames : List String := ["row", "col", "value", "fill", "border"]

/-- A cell as a JSON value. -/
def toJson (c : Cell) : Json :=
  .obj [("row", .nat c.row), ("col", .nat c.col), ("value", c.value.toJson),
    ("fill", .option .str c.fill), ("border", .bool c.border)]

/-- The cell that a JSON value stands for. -/
def ofJson? (j : Json) : Option Cell := do
  let r ← j.fields? fieldNames
  let row ← r.required? "row" Json.word?
  let col ← r.required? "col" Json.word?
  let value ← r.required? "value" Value.ofJson?
  let fill ← r.optional? "fill" Json.str?
  let border ← r.orElse? "border" Json.bool? false
  return { row, col, value, fill, border }

end Cell

namespace Link

/-- The fields of a link. -/
def fieldNames : List String := ["row", "col", "target"]

/-- A link as a JSON value. -/
def toJson (l : Link) : Json :=
  .obj [("row", .nat l.row), ("col", .nat l.col), ("target", .str l.target)]

/-- The link that a JSON value stands for. -/
def ofJson? (j : Json) : Option Link := do
  let r ← j.fields? fieldNames
  let row ← r.required? "row" Json.word?
  let col ← r.required? "col" Json.word?
  let target ← r.required? "target" Json.str?
  return { row, col, target }

end Link

namespace UsedRange

/-- The fields of a used range. -/
def fieldNames : List String :=
  ["cells", "links", "list_objects", "default_row_height", "default_col_width", "row_heights",
   "col_widths"]

/-- A size with its row or column as a JSON value. -/
def sizeToJson (s : Nat × Float) : Json := .arr [.nat s.1, .number s.2]

/-- A used range as a JSON value. -/
def toJson (u : UsedRange) : Json :=
  .obj [("cells", .list Cell.toJson u.cells), ("links", .list Link.toJson u.links),
    ("list_objects", .list .str u.tables), ("default_row_height", .number u.defaultRowHeight),
    ("default_col_width", .number u.defaultColWidth),
    ("row_heights", .list sizeToJson u.rowHeights),
    ("col_widths", .list sizeToJson u.colWidths)]

/-- The used range that a JSON value stands for. -/
def ofJson? (j : Json) : Option UsedRange := do
  let r ← j.fields? fieldNames
  let cells ← r.required? "cells" (Json.list? Cell.ofJson?)
  let links ← r.orElse? "links" (Json.list? Link.ofJson?) []
  let tables ← r.orElse? "list_objects" (Json.list? Json.str?) []
  let defaultRowHeight ← r.required? "default_row_height" Json.float?
  let defaultColWidth ← r.required? "default_col_width" Json.float?
  let rowHeights ← r.orElse? "row_heights" (Json.list? (Json.pair? Json.word? Json.float?)) []
  let colWidths ← r.orElse? "col_widths" (Json.list? (Json.pair? Json.word? Json.float?)) []
  return { cells, links, tables, defaultRowHeight, defaultColWidth, rowHeights, colWidths }

end UsedRange

end Sheetwise.Reported
