import Sheetwise.Cell
import Sheetwise.Json.Outline
import Sheetwise.Json.Record
import Sheetwise.PrintArea

/-!
# Cells in JSON

Cell values, rows and print areas as JSON values. A cell is written as the plain value it holds, and
read back by what it is: a truth value, a whole number of 64 bits, another number, or a text. The
columns of a row are the names of an object's members.
-/

namespace Sheetwise

/-- A number that is the name of a member: digits without leading zeros, of at most 32 bits. -/
def Json.index? (name : String) : Option Nat :=
  let cs := name.toList
  if cs.head? = some '0' ∧ cs ≠ ['0'] then none
  else (Text.digits? cs).filter fun n => decide (n ≤ Text.maxWord)

/-- A map by index, as an object. -/
def Json.ofIndexed {α : Type} (item : α → Json) (m : SortedMap Nat α) : Json :=
  .obj (m.toList.map fun e => (Text.ofNat e.1, item e.2))

/-- A map by index; of repeated names the last one counts. -/
def Json.indexed? {α : Type} (item : Json → Option α) (j : Json) : Option (SortedMap Nat α) :=
  (j.entries? Json.index? item).map SortedMap.ofList

namespace CellValue

/-- The JSON value of a cell. -/
def toJson : CellValue → Json
  | .bool b => .bool b
  | .int n => .int n
  | .float x => .number x
  | .text s => .str s

/-- The cell that a JSON value stands for. -/
def ofJson? (j : Json) : Option CellValue :=
  (j.bool?.map bool).or <| (j.int64?.map int).or <| (j.float?.map float).or <| j.str?.map text

end CellValue

namespace Row

/-- The fields of a row. -/
def fieldNames : List String := ["r", "c", "links"]

/-- How much of a written row is read. -/
def outline : Json.Outline := .record fieldNames fun
  | "c" => .indexed .whole
  | "links" => .indexed .whole
  | _ => .whole

/-- A row as a JSON value. -/
def toJson (row : Row) : Json :=
  .obj ([("r", .nat row.number), ("c", .ofIndexed CellValue.toJson row.cells)] ++
    Json.member "links" (Json.ofIndexed .str) row.links)

/-- The row that a JSON value stands for. -/
def ofJson? (j : Json) : Option Row := do
  let r ← j.fields? fieldNames
  let number ← r.required? "r" Json.word?
  let cells ← r.required? "c" (Json.indexed? CellValue.ofJson?)
  let links ← r.optional? "links" (Json.indexed? Json.str?)
  return { number, cells, links }

end Row

namespace PrintArea

/-- The fields of a print area. -/
def fieldNames : List String := ["r1", "c1", "r2", "c2"]

/-- How much of a written print area is read. -/
def outline : Json.Outline := .record fieldNames fun _ => .whole

/-- A print area as a JSON value. -/
def toJson (a : PrintArea) : Json :=
  .obj [("r1", .nat a.r1), ("c1", .nat a.c1), ("r2", .nat a.r2), ("c2", .nat a.c2)]

/-- The print area that a JSON value stands for. -/
def ofJson? (j : Json) : Option PrintArea := do
  let r ← j.fields? fieldNames
  let r1 ← r.required? "r1" Json.word?
  let c1 ← r.required? "c1" Json.word?
  let r2 ← r.required? "r2" Json.word?
  let c2 ← r.required? "c2" Json.word?
  return { r1, c1, r2, c2 }

end PrintArea

end Sheetwise
