import Sheetwise.Chart
import Sheetwise.Json.Outline
import Sheetwise.Json.Record

/-!
# Graphics and charts in JSON

A graphic is one flat object: its kind, the fields of its frame, and the fields of its kind. Fields
without a value are left out.
-/

namespace Sheetwise

namespace Diagram.Node

/-- The fields of a node. -/
def fieldNames : List String := ["level", "text", "kids"]

/-- A node with all below it as a JSON value. -/
def toJson (n : Node) : Json :=
  .obj [("level", .nat n.level), ("text", .str n.text), ("kids", .arr (n.kids.map toJson))]
decreasing_by
  cases n
  simp only [Node.mk.sizeOf_spec]
  rename_i kid h
  have := List.sizeOf_lt_of_mem h
  simp only at this
  omega

/-- The node that a JSON value stands for. Without kids it has none. -/
def ofJson? (j : Json) : Option Node :=
  match _hr : j.fields? fieldNames with
  | none => none
  | some r => do
    let level ← r.required? "level" Json.word?
    let text ← r.required? "text" Json.str?
    match _hk : r.get? "kids" with
    | none => return { level, text, kids := [] }
    | some (.arr items) => do
      let kids ← items.attach.mapM fun ⟨item, _⟩ => ofJson? item
      return { level, text, kids }
    | some _ => none
termination_by sizeOf j
decreasing_by
  have := Json.sizeOf_lt_of_fields? _hr _hk
  have := List.sizeOf_lt_of_mem ‹item ∈ items›
  simp only [Json.arr.sizeOf_spec] at *
  omega

end Diagram.Node

/-- The direction that a JSON value stands for. -/
def Direction.ofJson? (j : Json) : Option Direction := j.choice?.bind ofName?

namespace Frame

/-- The fields of a frame. -/
def fieldNames : List String :=
  ["id", "text", "l", "t", "w", "h", "type", "rotation", "direction"]

/-- The members of a frame. -/
def toMembers (f : Frame) : List (String × Json) :=
  Json.member "id" .nat f.id ++ [("text", .str f.text), ("l", .int f.left), ("t", .int f.top)] ++
    Json.member "w" .int f.width ++ Json.member "h" .int f.height ++
    Json.member "type" .str f.typeName ++ Json.member "rotation" .number f.rotation ++
    Json.member "direction" (fun d => .str d.name) f.direction

/-- The frame in a record. -/
def ofRecord? (r : Json.Record) : Option Frame := do
  let id ← r.optional? "id" Json.word?
  let text ← r.required? "text" Json.str?
  let left ← r.required? "l" Json.int32?
  let top ← r.required? "t" Json.int32?
  let width ← r.optional? "w" Json.int32?
  let height ← r.optional? "h" Json.int32?
  let typeName ← r.optional? "type" Json.str?
  let rotation ← r.optional? "rotation" Json.float?
  let direction ← r.optional? "direction" Direction.ofJson?
  return { id, text, left, top, width, height, typeName, rotation, direction }

end Frame

namespace ArrowEnds

/-- The fields of the ends of an arrow. -/
def fieldNames : List String := ["begin_arrow_style", "end_arrow_style", "begin_id", "end_id"]

/-- The members of the ends of an arrow. -/
def toMembers (e : ArrowEnds) : List (String × Json) :=
  Json.member "begin_arrow_style" .int e.beginStyle ++
    Json.member "end_arrow_style" .int e.endStyle ++
    Json.member "begin_id" .nat e.beginId ++ Json.member "end_id" .nat e.endId

/-- The ends of an arrow in a record. -/
def ofRecord? (r : Json.Record) : Option ArrowEnds := do
  let beginStyle ← r.optional? "begin_arrow_style" Json.int32?
  let endStyle ← r.optional? "end_arrow_style" Json.int32?
  let beginId ← r.optional? "begin_id" Json.word?
  let endId ← r.optional? "end_id" Json.word?
  return { beginStyle, endStyle, beginId, endId }

end ArrowEnds

namespace Graphic

/-- The members of a form, after those of the frame. -/
def formMembers : Form → List (String × Json)
  | .shape => []
  | .arrow ends => ends.toMembers
  | .diagram layout nodes =>
    [("layout", .str layout), ("nodes", .list Diagram.Node.toJson nodes)]

/-- A graphic as a JSON value. -/
def toJson (g : Graphic) : Json :=
  .obj (("kind", .str g.form.name) :: (g.toFrame.toMembers ++ formMembers g.form))

/-- The form of a kind in an object. -/
def formOf? (kind : String) (j : Json) : Option Form :=
  match kind with
  | "Shape" => some .shape
  | "Arrow" => do
    let r ← j.members? ArrowEnds.fieldNames
    return .arrow (← ArrowEnds.ofRecord? r)
  | "SmartArt" => do
    let r ← j.members? ["layout", "nodes"]
    let layout ← r.required? "layout" Json.str?
    let nodes ← r.required? "nodes" (Json.list? Diagram.Node.ofJson?)
    return .diagram layout nodes
  | _ => none

/-- The graphic that a JSON value stands for. -/
def ofJson? (j : Json) : Option Graphic := do
  let tag ← j.members? ["kind"]
  let kind ← tag.required? "kind" Json.str?
  let form ← formOf? kind j
  let frame ← Frame.ofRecord? (← j.members? Frame.fieldNames)
  return { frame with form }

end Graphic

namespace ChartSeries

/-- The fields of a series. -/
def fieldNames : List String := ["name", "name_range", "x_range", "y_range"]

/-- How much of a written series is read. -/
def outline : Json.Outline := .record fieldNames fun _ => .whole

/-- A series as a JSON value. -/
def toJson (s : ChartSeries) : Json :=
  .obj ([("name", .str s.name)] ++ Json.member "name_range" .str s.nameRange ++
    Json.member "x_range" .str s.xRange ++ Json.member "y_range" .str s.yRange)

/-- The series that a JSON value stands for. -/
def ofJson? (j : Json) : Option ChartSeries := do
  let r ← j.fields? fieldNames
  let name ← r.required? "name" Json.str?
  let nameRange ← r.optional? "name_range" Json.str?
  let xRange ← r.optional? "x_range" Json.str?
  let yRange ← r.optional? "y_range" Json.str?
  return { name, nameRange, xRange, yRange }

end ChartSeries

namespace Chart

/-- The fields of a chart. -/
def fieldNames : List String :=
  ["name", "chart_type", "title", "y_axis_title", "y_axis_range", "series", "l", "t", "w", "h",
   "error"]

/-- How much of a written chart is read. -/
def outline : Json.Outline := .record fieldNames fun
  | "series" => .list ChartSeries.outline
  | _ => .whole

/-- A chart as a JSON value. -/
def toJson (c : Chart) : Json :=
  .obj ([("name", .str c.name), ("chart_type", .str c.chartType)] ++
    Json.member "title" .str c.title ++
    [("y_axis_title", .str c.yAxisTitle), ("y_axis_range", .list .number c.yAxisRange),
     ("series", .list ChartSeries.toJson c.series), ("l", .int c.left), ("t", .int c.top)] ++
    Json.member "w" .int c.width ++ Json.member "h" .int c.height ++
    Json.member "error" .str c.error)

/-- The chart that a JSON value stands for. -/
def ofJson? (j : Json) : Option Chart := do
  let r ← j.fields? fieldNames
  let name ← r.required? "name" Json.str?
  let chartType ← r.required? "chart_type" Json.str?
  let title ← r.optional? "title" Json.str?
  let yAxisTitle ← r.orElse? "y_axis_title" Json.str? ""
  let yAxisRange ← r.orElse? "y_axis_range" (Json.list? Json.float?) []
  let series ← r.orElse? "series" (Json.list? ChartSeries.ofJson?) []
  let left ← r.required? "l" Json.int32?
  let top ← r.required? "t" Json.int32?
  let width ← r.optional? "w" Json.int32?
  let height ← r.optional? "h" Json.int32?
  let error ← r.optional? "error" Json.str?
  return {
    name, chartType, title, yAxisTitle, yAxisRange, series, left, top, width, height, error }

end Chart

end Sheetwise
