import Sheetwise.Package.SharedStrings
import Sheetwise.Package.WorkbookPart
import Sheetwise.Package.Worksheet

/-!
# Workbook files

What is read of a workbook file: its sheets, its print areas and how its dates count. A sheet that
cannot be read keeps its place, with the reason why, and takes nothing else with it.
-/

namespace Sheetwise

/-- Why there is no grid of a sheet: the part at a path cannot be read. -/
structure Unreadable where
  path : String
  cause : ReadError

/-- A sheet of a file. -/
structure SheetPart where
  name : String
  grid : Except Unreadable Grid

/-- What is read of a workbook file. -/
structure WorkbookFile where
  sheets : List SheetPart
  printAreas : List DefinedArea
  dates : DateSystem

namespace WorkbookFile

/-- The path of the part that says what the other parts contain. -/
def contentTypesPath : String := "[Content_Types].xml"

/--
The sheet of a name, read from the part that its relationship refers to. A sheet that refers to
nothing, or to something else than cells, is left out.
-/
def readSheet (p : Package) (rels : Relationships) (shared : Worksheet.Shared) (name id : String) :
    Reading (Option SheetPart) :=
  match rels.get? id with
  | none => return none
  | some r =>
    if !"/worksheet".toList.isSuffixOf r.kind.toList then return none
    else do
      let path := Package.resolve WorkbookPart.path r.target
      match ← Reading.attempt (Worksheet.read p shared path) with
      | .ok grid => return some ⟨name, .ok grid⟩
      | .error e => return some ⟨name, .error ⟨path, e⟩⟩

/-- Reads a package. -/
def read (p : Package) : Reading WorkbookFile := do
  if (p.find? contentTypesPath).isNone then throw .noContentTypes
  let strings ← liftExcept (SharedStrings.read p)
  let styles ← Styles.read p
  let part ← liftExcept (WorkbookPart.read p)
  let relsPath := Package.relationshipsPath WorkbookPart.path
  let some rels ← liftExcept (Relationships.read? p relsPath) | throw (.missingPart relsPath)
  let sheets ← part.sheets.mapM fun s => readSheet p rels ⟨strings, styles, part.dates⟩ s.1 s.2
  return { sheets := sheets.filterMap id, printAreas := part.printAreas, dates := part.dates }

/-- The first sheet of a name. -/
def sheet? (f : WorkbookFile) (name : String) : Option SheetPart :=
  f.sheets.find? fun s => s.name = name

end WorkbookFile

end Sheetwise
