import Sheetwise.Options
import Sheetwise.Package.WorkbookFile

/-!
# Sources of sheet data

What an extraction asks for comes from a source: the workbook file, or the application that has it
open. This module says how a source may fail, and answers from the file. A file answers every
question about a sheet that it could read.
-/

namespace Sheetwise

/-- Why a source gives no answer. -/
inductive SourceError where
  /-- There is no sheet of the name. -/
  | unknownSheet (name : String)
  /-- The sheet's part of the file cannot be read. -/
  | unreadable (sheet : Unreadable)
  /-- The application cannot be reached. -/
  | unavailable (reason : String)
  /-- A call to the application failed. -/
  | callFailed (operation reason : String)

/-- The text that reports that a part cannot be read. -/
def Unreadable.message (u : Unreadable) : String :=
  "worksheet part " ++ u.path ++ " is unreadable: " ++ u.cause.message

/-- The text that reports why a source gives no answer. -/
def SourceError.message : SourceError → String
  | .unknownSheet name => "Unknown sheet: " ++ name
  | .unreadable u => "Sheet cannot be read from file: " ++ u.message
  | .unavailable reason => "Automation unavailable: " ++ reason
  | .callFailed operation reason => "Automation call " ++ operation ++ " failed: " ++ reason

/--
The print areas of a sheet in a list of references, each once. References that name another sheet and
text that is no reference are passed over.
-/
def PrintArea.listOf (text sheet : String) : List PrintArea :=
  ((Reference.areaTexts text).filterMap fun part =>
    ((Reference.onSheet? part sheet).bind Reference.rect?).map PrintArea.ofRect).eraseDups

namespace WorkbookFile

/-- The names of the sheets, in order. -/
def sheetNames (f : WorkbookFile) : List String := f.sheets.map SheetPart.name

/-- The grid of a sheet. -/
def grid (f : WorkbookFile) (name : String) : Except SourceError Grid :=
  match f.sheet? name with
  | none => .error (.unknownSheet name)
  | some s => s.grid.mapError .unreadable

/-- The rows of a sheet. -/
def rows (f : WorkbookFile) (name : String) (includeLinks : Bool) : Except SourceError (List Row) :=
  (f.grid name).map fun g => g.toRows includeLinks

/-- The colours of a sheet. -/
def colors (f : WorkbookFile) (name : String) (options : ColorOptions) : Except SourceError ColorMap :=
  (f.grid name).map fun g => Color.map g options

/-- The table candidates of a sheet. -/
def tableCandidates (f : WorkbookFile) (name : String) (t : TableThresholds) :
    Except SourceError (List String) :=
  (f.grid name).map fun g => Table.detect g t

/-- The sizes of a sheet. -/
def metrics (f : WorkbookFile) (name : String) : Except SourceError Metrics :=
  (f.grid name).map Grid.metrics

/--
The definitions of print areas that hold for the sheet at a place: those that belong to it, or, if
there are none, those that belong to no sheet.
-/
def areasAt (f : WorkbookFile) (index : Nat) : List DefinedArea :=
  let own := f.printAreas.filter fun d => d.localSheet = some index
  if own.isEmpty then f.printAreas.filter fun d => d.localSheet = none else own

/-- The print areas of a sheet, each once. -/
def areas (f : WorkbookFile) (name : String) : Except SourceError (List PrintArea) :=
  match f.sheets.findIdx? fun s => s.name = name with
  | none => .error (.unknownSheet name)
  | some index => .ok ((f.areasAt index).flatMap fun d => PrintArea.listOf d.formula name).eraseDups

end WorkbookFile

end Sheetwise
