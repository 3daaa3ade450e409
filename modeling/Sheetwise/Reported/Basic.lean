import Sheetwise.Diagram

/-!
# What the application reports

The application that a workbook is open in tells about its sheets in its own terms: objects drawn on
them, charts, page breaks and the used range, with rows and columns counted from one and positions in
points. These are the reports as they come in, before any of it is classified or counted anew.
-/

namespace Sheetwise.Reported

/-- The value of a cell. -/
inductive Value where
  | null
  | bool (b : Bool)
  | number (x : Float)
  | text (s : String)
  /-- A failed computation, by the code that the cell shows. -/
  | error (code : String)
deriving Inhabited

/-- An object drawn on a sheet. Types and styles are codes of the application. -/
structure Drawing where
  id : Option Nat := none
  name : String
  text : String := ""
  left : Float
  top : Float
  width : Float
  height : Float
  typeCode : Int
  autoShapeCode : Option Int := none
  autoShapeName : Option String := none
  rotation : Float := 0
  hasDiagram : Bool := false
  diagramLayout : Option String := none
  diagramItems : List Diagram.Item := []
  beginArrowStyle : Option Int := none
  endArrowStyle : Option Int := none
  isConnector : Bool := false
  beginConnectedId : Option Nat := none
  endConnectedId : Option Nat := none
  flipHorizontal : Bool := false
  flipVertical : Bool := false
deriving Inhabited

/-- A series of a chart. -/
structure Series where
  name : String := ""
  formula : String := ""
deriving Inhabited

/-- A chart on a sheet. -/
structure Chart where
  name : String
  typeCode : Int := 0
  title : Option String := none
  yAxisTitle : String := ""
  yAxisMin : Option Float := none
  yAxisMax : Option Float := none
  series : List Series := []
  left : Float
  top : Float
  width : Float
  height : Float
  /-- Why the details of the chart could not be read, if so. -/
  error : Option String := none
deriving Inhabited

/-- A rectangle of cells between two corners. -/
structure Area where
  firstRow : Nat
  firstCol : Nat
  lastRow : Nat
  lastCol : Nat
deriving DecidableEq, Inhabited

/-- How a sheet is cut into pages. -/
structure PageBreaks where
  areas : List Area := []
  /-- The rows that start a page. -/
  rowBreaks : List Nat := []
  /-- The columns that start a page. -/
  colBreaks : List Nat := []
deriving Inhabited

/-- A cell of the used range. -/
structure Cell where
  row : Nat
  col : Nat
  value : Value
  fill : Option String := none
  border : Bool := false
deriving Inhabited

/-- A link of a cell. -/
structure Link where
  row : Nat
  col : Nat
  target : String
deriving Inhabited

/-- The used range of a sheet. -/
structure UsedRange where
  cells : List Cell
  links : List Link := []
  tables : List String := []
  defaultRowHeight : Float
  defaultColWidth : Float
  rowHeights : List (Nat × Float) := []
  colWidths : List (Nat × Float) := []
deriving Inhabited

end Sheetwise.Reported
