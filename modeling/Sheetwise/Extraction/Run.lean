import Sheetwise.Extraction.Draft

/-!
# Running an extraction

The file comes first and decides whether there is an extraction at all. The application comes second
and decides nothing: it contributes to every sheet or to none, and a failure of any call takes back
all that it had contributed.
-/

namespace Sheetwise

/-- The extension of a file name: what follows its last dot, unless nothing comes before that. -/
def extension? (fileName : String) : Option (List Char) :=
  let parts := fileName.toList.splitOn '.'
  if parts.length < 2 ∨ parts.dropLast = [[]] then none else parts.getLast?

/-- Whether a file name is that of a workbook. -/
def isWorkbookName (fileName : String) : Bool :=
  match extension? fileName with
  | none => false
  | some e => ["xlsx".toList, "xlsm".toList].contains (e.map Char.toLower)

namespace Extraction

/-- Asks the application about every sheet, as long as no call fails. -/
def contributions {σ : Type} (connector : Connector σ) (o : Options) (t : TableThresholds)
    (drafts : List Draft) : StateM σ (Except Fallback (List Contribution)) := do
  match ← connector.connect.run with
  | .error e => return .error ⟨.unavailable, e.message⟩
  | .ok app =>
    let result ← (drafts.mapM fun (d : Draft) => d.contribution app o t).run
    modify app.close
    return result.mapError fun (e : SourceError) => ⟨.failed, e.message⟩

/-- The sheets of the drafts as they are. -/
def fromFile (drafts : List Draft) : List (String × Sheet) := drafts.map fun d => (d.name, d.sheet)

/-- The workbook of some sheets, the last one of each name. -/
def workbookOf (fileName : String) (sheets : List (String × Sheet)) : Workbook where
  bookName := fileName
  sheets := Named.ofList sheets

/-- Extracts from a file that has been read, and from the application if the options ask for it. -/
def ofFile {σ : Type} (connector : Connector σ) (o : Options) (inForce : TableThresholds)
    (fileName : String) (f : WorkbookFile) : StateM σ Run := do
  let t := o.tableThresholds inForce
  let drafted := f.sheetNames.map (Draft.ofFile f o t)
  let drafts := drafted.map Prod.fst
  let notices := drafted.flatMap Prod.snd
  let finish (via : Stage) (more : List Notice) (sheets : List (String × Sheet))
      (fallback : Option Fallback) : Run := {
    stages := [.selectSources, .readFile, via, .merge, .done]
    notices := notices ++ more
    result := .ok ⟨workbookOf fileName sheets, fallback⟩ }
  if o.need = .unused then
    let f : Fallback := ⟨.disabled, "automation is not used in " ++ o.mode.name ++ " mode"⟩
    return finish .skipApplication [.skipped o.mode] (fromFile drafts) (some f)
  else
    match ← contributions connector o t drafts with
    | .ok cs =>
      return finish .askApplication [] ((drafts.zip cs).map fun p => (p.1.name, p.1.merge p.2)) none
    | .error f => return finish .askApplication [.fallback f o.need] (fromFile drafts) (some f)

/--
Extracts from the package of a file, or says why not. The name of the file is looked at before the
file is.
-/
def run {σ : Type} (connector : Connector σ) (o : Options) (inForce : TableThresholds)
    (fileName : String) (source : Except ReadError Package) : StateT σ Checked Run := do
  if !isWorkbookName fileName then
    return { stages := [], result := .error (.unsupported fileName) }
  else
    match ← (liftExcept source >>= WorkbookFile.read : Reading WorkbookFile).run with
    | .error e =>
      return { stages := [.selectSources, .readFile], result := .error (.notOpened fileName e) }
    | .ok f => fun s => .ok ((ofFile connector o inForce fileName f).run s)

end Extraction

end Sheetwise
