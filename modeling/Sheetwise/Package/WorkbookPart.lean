import Sheetwise.Package.Basic
import Sheetwise.SerialDate

/-!
# The workbook part

The part that lists the sheets, names their print areas and says how dates count.
-/

namespace Sheetwise

/-- A print area as it is defined: a list of references, and the sheet that it belongs to. -/
structure DefinedArea where
  /-- The place of the sheet, if the definition belongs to one. -/
  localSheet : Option Nat
  formula : String
deriving DecidableEq, Repr

/-- What the workbook part says. -/
structure WorkbookPart where
  /-- The names of the sheets, each with the identifier of its relationship. -/
  sheets : List (String × String) := []
  printAreas : List DefinedArea := []
  dates : DateSystem := .from1900

namespace WorkbookPart

/-- A name whose definition is being read. -/
structure OpenName where
  name : String
  localSheet : Option Nat

/-- How far the reading of the part has come. -/
structure State where
  part : WorkbookPart := {}
  openName : Option OpenName := none
  /-- The text of the definition so far. -/
  text : String := ""

/-- Reads a sheet; one without a name or a relationship does not count. -/
def sheet (part : WorkbookPart) (e : Markup.Element) : WorkbookPart :=
  match e.get? "name", e.get? "r:id" with
  | some name, some id => { part with sheets := part.sheets ++ [(name, id)] }
  | _, _ => part

/-- Reads how dates count. -/
def properties (part : WorkbookPart) (e : Markup.Element) : WorkbookPart :=
  match e.attributes.lookup "date1904" with
  | some value =>
    { part with dates := if value = some "1" ∨ value = some "true" then .from1904 else .from1900 }
  | none => part

/-- The name that a definition starts. -/
def openNameOf (e : Markup.Element) : OpenName where
  name := (e.get? "name").getD ""
  localSheet := (e.get? "localSheetId").bind fun s => Text.natural? Text.maxLongWord s.toList

/-- Reads the start of an element. -/
def start (s : State) (e : Markup.Element) (staysOpen : Bool) : State :=
  match e.name with
  | "sheet" => { s with part := sheet s.part e }
  | "workbookPr" => { s with part := properties s.part e }
  | "definedName" => if staysOpen then { s with openName := some (openNameOf e), text := "" } else s
  | _ => s

/-- Reads the end of a definition, which counts if it defines print areas. -/
def define (s : State) : State :=
  match s.openName with
  | none => s
  | some n =>
    let s := { s with openName := none }
    if Text.lower n.name = "_xlnm.print_area" then
      let area : DefinedArea := ⟨n.localSheet, Text.trim s.text⟩
      { s with part := { s.part with printAreas := s.part.printAreas ++ [area] } }
    else s

/-- Reads one event. -/
def step (s : State) : Markup.Event → State
  | .opening e => start s e true
  | .selfClosing e => start s e false
  | .closing name => if name = "definedName" then define s else s
  | .text t => if s.openName.isSome then { s with text := s.text ++ t } else s

/-- What the events of the part say. -/
def ofEvents (es : List Markup.Event) : WorkbookPart := (es.foldl step {}).part

/-- The path of the part. -/
def path : String := "xl/workbook.xml"

/-- The workbook part of a package. -/
def read (p : Package) : Except ReadError WorkbookPart :=
  match p.events? .trimmed path with
  | none => .error (.missingPart path)
  | some es => es.checked.map fun _ => ofEvents es.events

end WorkbookPart

end Sheetwise
