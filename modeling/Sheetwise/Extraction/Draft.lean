import Sheetwise.Extraction.Basic
import Sheetwise.Output
import Sheetwise.Reported.Charts
import Sheetwise.Reported.Graphics
import Sheetwise.Reported.Pages

/-!
# Sheets drafted from the file

The file is asked first, and what it tells of a sheet is not changed by what the application tells
later. A step that the file cannot take leaves a gap in the draft of the sheet; only gaps are filled
by the application, which adds graphics, charts and pages of its own.
-/

namespace Sheetwise

/-- What the file left open of a sheet. -/
structure Gaps where
  /-- The rows, and the sizes that go with them. -/
  cells : Bool := false
  printAreas : Bool := false
  colors : Bool := false
  tables : Bool := false
deriving DecidableEq, Repr

/-- A sheet as the file tells of it. -/
structure Draft where
  name : String
  sheet : Sheet
  gaps : Gaps

/-- What the application adds to a sheet, and what it fills of its gaps. -/
structure Contribution where
  shapes : List Graphic := []
  charts : List Chart := []
  autoPrintAreas : List PrintArea := []
  cells : Option (List Row × Metrics) := none
  printAreas : Option (List PrintArea) := none
  colors : Option ColorMap := none
  tables : Option (List String) := none

namespace Draft

/-- The notice of a step that could not be taken, if it could not. -/
def noticeOf {α : Type} (step : FileStep) (name : String) :
    Except SourceError α → List Notice
  | .ok _ => []
  | .error e => [.unavailable step name e]

/-- Drafts a sheet from the file, with a notice for each step that could not be taken. -/
def ofFile (f : WorkbookFile) (o : Options) (t : TableThresholds) (name : String) :
    Draft × List Notice :=
  let rows := f.rows name o.cellLinks
  let metrics := f.metrics name
  let tables := f.tableCandidates name t
  let areas := if o.includePrintAreas then f.areas name else .ok []
  let colors := if o.includeColors then f.colors name o.colors else .ok ∅
  let isGap {α : Type} (r : Except SourceError α) : Bool := !r.isOk
  let whole := !isGap rows && !isGap metrics
  let gaps : Gaps := {
    cells := !whole
    printAreas := isGap areas
    colors := isGap colors
    tables := isGap tables }
  let sheet : Sheet := {
    rows := if whole then rows.toOption.getD [] else []
    metrics := if whole then metrics.toOption.getD .standard else .standard
    tableCandidates := tables.toOption.getD []
    printAreas := areas.toOption.getD []
    colors := colors.toOption.getD ∅ }
  (⟨name, sheet, gaps⟩,
    noticeOf .cells name rows ++ noticeOf .metrics name metrics ++
      noticeOf .tableCandidates name tables ++ noticeOf .printAreas name areas ++
      noticeOf .colors name colors)

/-- Asks a question only if there is a gap that its answer fills. -/
def fill {σ α : Type} (gap : Bool) (question : Query σ α) : Query σ (Option α) :=
  if gap then some <$> question else return none

/-- Asks the application for what it adds to a sheet and for what is missing in its draft. -/
def contribution {σ : Type} (d : Draft) (app : Application σ) (o : Options) (t : TableThresholds) :
    Query σ Contribution := do
  let drawn := o.need = .required
  let shapes ← if drawn then (Reported.Drawing.graphics · o.mode) <$> app.graphics d.name else pure []
  let charts ← if drawn then List.map Reported.Chart.chart <$> app.charts d.name else pure []
  let autoPrintAreas ←
    if o.includeAutoPageBreaks then Reported.PageBreaks.pages <$> app.pageBreaks d.name else pure []
  let cells ← fill d.gaps.cells do
    return (← app.rows d.name o.cellLinks, ← app.metrics d.name)
  let printAreas ← fill d.gaps.printAreas (app.printAreas d.name)
  let colors ← fill d.gaps.colors (app.colors d.name o.colors)
  let tables ← fill d.gaps.tables (app.tableCandidates d.name t)
  return { shapes, charts, autoPrintAreas, cells, printAreas, colors, tables }

/-- The sheet with what the application adds to it and fills of its gaps. -/
def merge (d : Draft) (c : Contribution) : Sheet :=
  { d.sheet with
    shapes := c.shapes
    charts := c.charts
    autoPrintAreas := c.autoPrintAreas
    rows := (c.cells.map Prod.fst).getD d.sheet.rows
    metrics := (c.cells.map Prod.snd).getD d.sheet.metrics
    printAreas := c.printAreas.getD d.sheet.printAreas
    colors := c.colors.getD d.sheet.colors
    tableCandidates := c.tables.getD d.sheet.tableCandidates }

end Draft

end Sheetwise
