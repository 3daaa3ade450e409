import Sheetwise.Bridge.Message
import Sheetwise.Codec.Reported

/-!
# Messages in JSON

A message is one object. A request names its command, with the command's parameters in an object of
their own; a response names its status beside the data or the message that belongs to it. The data of
a response say by the name of their one member what they are.
-/

namespace Sheetwise.Bridge

namespace SheetRef

/-- A reference to a sheet as a JSON value. -/
def toJson : SheetRef → Json
  | .index n => .nat n
  | .name s => .str s

/-- The reference to a sheet that a JSON value stands for. -/
def ofJson? (j : Json) : Option SheetRef := (j.word?.map .index).or (j.str?.map .name)

end SheetRef

namespace Command

/-- The name of a command. -/
def name : Command → String
  | .init => "Init"
  | .openWorkbook _ => "OpenWorkbook"
  | .listSheets _ => "ListSheets"
  | .getShapes _ _ => "GetShapes"
  | .getCharts _ _ => "GetCharts"
  | .getPrintAreas _ _ => "GetPrintAreas"
  | .getPageBreaks _ _ => "GetPageBreaks"
  | .getGrid _ _ => "GetSheetGrid"
  | .closeWorkbook _ => "CloseWorkbook"
  | .shutdown => "Shutdown"

/-- The parameters that name a workbook. -/
def workbookParams (workbook : Nat) : Json := .obj [("workbook", .nat workbook)]

/-- The parameters that name a sheet of a workbook. -/
def sheetParams (workbook : Nat) (sheet : SheetRef) : Json :=
  .obj [("workbook", .nat workbook), ("sheet", sheet.toJson)]

/-- The parameters of a command, if it has any. -/
def params? : Command → Option Json
  | .init | .shutdown => none
  | .openWorkbook path => some (.obj [("path", .str path)])
  | .listSheets workbook | .closeWorkbook workbook => some (workbookParams workbook)
  | .getShapes workbook sheet | .getCharts workbook sheet | .getPrintAreas workbook sheet
  | .getPageBreaks workbook sheet | .getGrid workbook sheet => some (sheetParams workbook sheet)

/-- The members of a command. -/
def toMembers (c : Command) : List (String × Json) :=
  ("cmd", .str c.name) :: Json.member "params" id c.params?

/-- The command without parameters that is given none. -/
def bare? (c : Command) : Option Json → Option Command
  | none | some .null => some c
  | some _ => none

/-- The command that is given a workbook. -/
def onWorkbook? (c : Nat → Command) (params : Option Json) : Option Command := do
  let r ← (← params).members? ["workbook"]
  return c (← r.required? "workbook" Json.longWord?)

/-- The command that is given a sheet of a workbook. -/
def onSheet? (c : Nat → SheetRef → Command) (params : Option Json) : Option Command := do
  let r ← (← params).members? ["workbook", "sheet"]
  return c (← r.required? "workbook" Json.longWord?) (← r.required? "sheet" SheetRef.ofJson?)

/-- The command of a name, with its parameters. -/
def ofName? (name : String) (params : Option Json) : Option Command :=
  match name with
  | "Init" => bare? .init params
  | "OpenWorkbook" => do
    let r ← (← params).members? ["path"]
    return .openWorkbook (← r.required? "path" Json.str?)
  | "ListSheets" => onWorkbook? .listSheets params
  | "GetShapes" => onSheet? .getShapes params
  | "GetCharts" => onSheet? .getCharts params
  | "GetPrintAreas" => onSheet? .getPrintAreas params
  | "GetPageBreaks" => onSheet? .getPageBreaks params
  | "GetSheetGrid" => onSheet? .getGrid params
  | "CloseWorkbook" => onWorkbook? .closeWorkbook params
  | "Shutdown" => bare? .shutdown params
  | _ => none

end Command

namespace Request

/-- A request as a JSON value. -/
def toJson (r : Request) : Json := .obj (("id", .nat r.id) :: r.command.toMembers)

/-- The request that a JSON value stands for. -/
def ofJson? (j : Json) : Option Request := do
  let r ← j.members? ["id", "cmd", "params"]
  let id ← r.required? "id" Json.longWord?
  let name ← r.required? "cmd" Json.choice?
  let command ← Command.ofName? name (r.get? "params")
  return { id, command }

end Request

namespace Payload

/-- The data of a response as a JSON value. -/
def toJson : Payload → Json
  | .workbook handle => .obj [("workbook", .nat handle)]
  | .sheets names => .obj [("sheets", .list .str names)]
  | .shapes drawings => .obj [("shapes", .list Reported.Drawing.toJson drawings)]
  | .charts drawn => .obj [("charts", .list Reported.Chart.toJson drawn)]
  | .pageBreaks breaks => .obj [("page_breaks", breaks.toJson)]
  | .grid range => .obj [("grid", range.toJson)]
  | .printArea text => .obj [("print_area", .str text)]

/-- The data under one name of an object. -/
def under? {α : Type} (j : Json) (name : String) (item : Json → Option α) : Option α := do
  (← j.members? [name]).required? name item

/-- The data of a response that a JSON value stands for: the first kind that it fits. -/
def ofJson? (j : Json) : Option Payload :=
  ((under? j "workbook" Json.longWord?).map workbook).or <|
  ((under? j "sheets" (Json.list? Json.str?)).map sheets).or <|
  ((under? j "shapes" (Json.list? Reported.Drawing.ofJson?)).map shapes).or <|
  ((under? j "charts" (Json.list? Reported.Chart.ofJson?)).map charts).or <|
  ((under? j "page_breaks" Reported.PageBreaks.ofJson?).map pageBreaks).or <|
  ((under? j "grid" Reported.UsedRange.ofJson?).map grid).or <|
  (under? j "print_area" Json.str?).map printArea

end Payload

namespace Outcome

/-- The members of an outcome. -/
def toMembers : Outcome → List (String × Json)
  | .ok data => ("status", .str "ok") :: Json.member "data" Payload.toJson data
  | .error message => [("status", .str "error"), ("message", .str message)]

/-- Whether a status says that a command succeeded; it is given by its name or its number. -/
def succeeded? : Json → Option Bool
  | .str "ok" | .int 0 => some true
  | .str "error" | .int 1 => some false
  | _ => none

/-- The outcome that the members of an object tell. -/
def ofJson? (j : Json) : Option Outcome := do
  let r ← j.members? ["status"]
  if ← r.required? "status" succeeded? then
    let r ← j.members? ["data"]
    return .ok (← r.optional? "data" Payload.ofJson?)
  else
    let r ← j.members? ["message"]
    return .error (← r.required? "message" Json.str?)

end Outcome

namespace Response

/-- A response as a JSON value. -/
def toJson (r : Response) : Json := .obj (("id", .nat r.id) :: r.outcome.toMembers)

/-- The response that a JSON value stands for. -/
def ofJson? (j : Json) : Option Response := do
  let r ← j.members? ["id"]
  let id ← r.required? "id" Json.longWord?
  let outcome ← Outcome.ofJson? j
  return { id, outcome }

end Response

end Sheetwise.Bridge
