import Sheetwise.Options
import Sheetwise.View

/-!
# What to hand out

An extraction holds all that was found. What is handed out of it is a matter of the mode and of an
output filter, which leaves out whole kinds of content or the sizes of what is drawn.
-/

namespace Sheetwise

/-- What to hand out; settings that are not given follow the mode. -/
structure OutputFilter where
  includeRows : Bool := true
  includeShapes : Bool := true
  includeCharts : Bool := true
  includeTables : Bool := true
  /-- Unset, it is so except in light mode. -/
  includePrintAreas : Option Bool := none
  /-- Unset, it is so in verbose mode only. -/
  includeShapeSize : Option Bool := none
  /-- Unset, it is so in verbose mode only. -/
  includeChartSize : Option Bool := none
  /-- Whether to move views to the corner of their areas. -/
  normalizeViews : Bool := false
deriving Inhabited

namespace OutputFilter

variable {α : Type}

/-- What a sheet hands out. -/
def sheet (f : OutputFilter) (mode : Mode) (s : Sheet α) : Sheet α :=
  let printAreas := f.includePrintAreas.getD (mode ≠ .light)
  let shapeSize := f.includeShapeSize.getD (mode = .verbose)
  let chartSize := f.includeChartSize.getD (mode = .verbose)
  { s with
    rows := if f.includeRows then s.rows else []
    shapes :=
      if !f.includeShapes then []
      else if shapeSize then s.shapes
      else s.shapes.map Graphic.withoutSize
    charts :=
      if !f.includeCharts then []
      else if chartSize then s.charts
      else s.charts.map Chart.withoutSize
    tableCandidates := if f.includeTables then s.tableCandidates else []
    printAreas := if printAreas then s.printAreas else [] }

/-- What a workbook hands out. -/
def workbook (f : OutputFilter) (mode : Mode) (w : Workbook α) : Workbook α :=
  { w with sheets := w.sheets.map fun _ s => f.sheet mode s }

/-- The options of the views handed out with a workbook. -/
def viewOptions (f : OutputFilter) (o : Options) : ViewOptions where
  normalize := f.normalizeViews
  includeAutoPageBreaks := o.includeAutoPageBreaks

end OutputFilter

end Sheetwise
