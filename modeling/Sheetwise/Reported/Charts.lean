import Sheetwise.Chart
import Sheetwise.Reported.Basic
import Sheetwise.SeriesFormula

/-!
# Charts from reports

A reported chart gets the name of its type and the references of its series. One whose details could
not be read keeps its name, its place and the error.
-/

namespace Sheetwise.Reported

/-- The names of the types of charts. -/
def chartTypes : List (Int × String) :=
  [(-4098, "3DArea"), (-4100, "3DColumn"), (-4101, "3DLine"), (-4102, "3DPie"),
   (-4120, "Doughnut"), (-4151, "Radar"), (-4169, "XYScatter"), (1, "Area"), (4, "Line"),
   (5, "Pie"), (15, "Bubble"), (51, "ColumnClustered"), (52, "ColumnStacked"),
   (53, "ColumnStacked100"), (54, "3DColumnClustered"), (55, "3DColumnStacked"),
   (56, "3DColumnStacked100"), (57, "BarClustered"), (58, "BarStacked"), (59, "BarStacked100"),
   (60, "3DBarClustered"), (61, "3DBarStacked"), (62, "3DBarStacked100"), (63, "LineStacked"),
   (64, "LineStacked100"), (65, "LineMarkers"), (66, "LineMarkersStacked"),
   (67, "LineMarkersStacked100"), (68, "PieOfPie"), (69, "PieExploded"), (70, "3DPieExploded"),
   (71, "BarOfPie"), (72, "XYScatterSmooth"), (73, "XYScatterSmoothNoMarkers"),
   (74, "XYScatterLines"), (75, "XYScatterLinesNoMarkers"), (76, "AreaStacked"),
   (77, "AreaStacked100"), (78, "3DAreaStacked"), (79, "3DAreaStacked100"),
   (80, "DoughnutExploded"), (81, "RadarMarkers"), (82, "RadarFilled"), (83, "Surface"),
   (84, "SurfaceWireframe"), (85, "SurfaceTopView"), (86, "SurfaceTopViewWireframe"),
   (87, "Bubble3DEffect"), (88, "StockHLC"), (89, "StockOHLC"), (90, "StockVHLC"),
   (91, "StockVOHLC")]

/-- The name of a type of chart; a type without one is named by its code. -/
def chartTypeName (code : Int) : String :=
  (chartTypes.lookup code).getD ("unknown_" ++ Text.ofInt code)

/-- The series with the references in its formula. -/
def Series.chartSeries (s : Series) : ChartSeries :=
  let refs := (SeriesFormula.parse? s.formula).getD {}
  { name := s.name, nameRange := refs.name, xRange := refs.x, yRange := refs.y }

/-- The chart that a reported one becomes. -/
def Chart.chart (c : Chart) : Sheetwise.Chart :=
  let left := Quantity.toPosition c.left
  let top := Quantity.toPosition c.top
  match c.error with
  | some error => .failed c.name left top error
  | none => {
      name := c.name
      chartType := chartTypeName c.typeCode
      title := c.title.filter fun t => t ≠ ""
      yAxisTitle := c.yAxisTitle
      yAxisRange :=
        match c.yAxisMin, c.yAxisMax with
        | some lo, some hi => [lo, hi]
        | _, _ => []
      series := c.series.map Series.chartSeries
      left, top
      width := some (Quantity.toPosition c.width)
      height := some (Quantity.toPosition c.height) }

end Sheetwise.Reported
