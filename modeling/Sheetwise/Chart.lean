import Sheetwise.Graphic

/-!
# Charts

A chart on a sheet, with its series as references to cells. A chart that could not be read has its
name, its place and the error, and nothing else.
-/

namespace Sheetwise

/-- A series of a chart. The references are kept as text. -/
structure ChartSeries where
  name : String
  nameRange : Option String := none
  xRange : Option String := none
  yRange : Option String := none
deriving Inhabited

/-- A chart on a sheet. -/
structure Chart where
  name : String
  chartType : String := ""
  title : Option String := none
  yAxisTitle : String := ""
  /-- The bounds of the value axis, or nothing if they are unknown. -/
  yAxisRange : List Float := []
  series : List ChartSeries := []
  left : Int
  top : Int
  width : Option Int := none
  height : Option Int := none
  error : Option String := none
deriving Inhabited

namespace Chart

/-- A chart that could not be read. -/
def failed (name : String) (left top : Int) (error : String) : Chart :=
  { name, left, top, error := some error }

/-- Whether the chart could not be read. -/
def isFailed (c : Chart) : Bool := c.error.isSome

/-- The box around a chart, a point if its size is unknown. -/
def box (c : Chart) : Box Int := .ofSize c.left c.top c.width c.height

/-- The chart moved to the left by `dx` and up by `dy`. -/
def rebase (c : Chart) (dx dy : Int) : Checked Chart := do
  let left ← Position.sub c.left dx
  let top ← Position.sub c.top dy
  return { c with left, top }

/-- The chart without its size. -/
def withoutSize (c : Chart) : Chart := { c with width := none, height := none }

end Chart

end Sheetwise
