import Sheetwise.Graphic
import Sheetwise.Options
import Sheetwise.Reported.Basic

/-!
# Graphics from reported drawings

Every reported object that is kept becomes one graphic. One with a diagram becomes a diagram, one with
arrowheads or made to connect becomes an arrow, and any other a plain shape. Which objects are kept
depends on the mode: charts, comments, pictures and controls never are.
-/

namespace Sheetwise.Reported

/-! ## Codes of the types of drawn objects -/
namespace TypeCode

def autoShape : Int := 1
def chart : Int := 3
def comment : Int := 4
def formControl : Int := 8
def line : Int := 9
def linkedPicture : Int := 11
def picture : Int := 13

/-- The types that are no graphics, or are reported elsewhere. -/
def excluded : List Int := [chart, comment, formControl, picture, linkedPicture]

/-- The names of the types that have one. -/
def names : List (Int × String) :=
  [(2, "Callout"), (5, "Freeform"), (6, "Group"), (7, "EmbeddedOLEObject"), (9, "Line"),
   (10, "LinkedOLEObject"), (12, "OLEControlObject"), (14, "Placeholder"), (15, "TextEffect"),
   (17, "TextBox"), (20, "Canvas"), (21, "Diagram"), (24, "SmartArt"), (28, "Graphic")]

end TypeCode

/-! ## Codes of the outlines of drawn shapes -/
namespace AutoShapeCode

/-- The code reported for objects of more than one outline, and of none. -/
def mixed : Int := -2

/-- The names of the outlines that have one. -/
def names : List (Int × String) :=
  [(-2, "Mixed"), (1, "Rectangle"), (2, "Parallelogram"), (3, "Trapezoid"), (4, "Diamond"),
   (5, "RoundedRectangle"), (6, "Octagon"), (7, "IsoscelesTriangle"), (8, "RightTriangle"),
   (9, "Oval"), (10, "Hexagon"), (11, "Cross"), (12, "RegularPentagon"), (13, "Can"), (14, "Cube"),
   (33, "RightArrow"), (34, "LeftArrow"), (35, "UpArrow"), (36, "DownArrow"),
   (37, "LeftRightArrow"), (38, "UpDownArrow"), (51, "Pentagon"), (52, "Chevron"),
   (61, "FlowchartProcess"), (62, "FlowchartAlternateProcess"), (63, "FlowchartDecision"),
   (64, "FlowchartData"), (65, "FlowchartPredefinedProcess"), (67, "FlowchartDocument"),
   (69, "FlowchartTerminator"), (73, "FlowchartConnector"), (105, "RectangularCallout"),
   (106, "RoundedRectangularCallout"), (107, "OvalCallout"), (108, "CloudCallout")]

end AutoShapeCode

namespace Drawing

/-- Whether the object has arrowheads or is made to connect others. -/
def isArrow (d : Drawing) : Bool :=
  d.beginArrowStyle.isSome || d.endArrowStyle.isSome || d.isConnector

/-- Whether the object is neither a diagram nor an arrow. -/
def isPlain (d : Drawing) : Bool := !d.hasDiagram && !d.isArrow

/-- Whether the object runs from one point to another. -/
def isLine (d : Drawing) : Bool := d.typeCode == TypeCode.line || (!d.hasDiagram && d.isArrow)

/-- Whether the object has no text. -/
def isBlank (d : Drawing) : Bool := Text.isBlankText d.text

/-- Whether the object is a shape of no one outline that shows nothing. -/
def isEmptyFrame (d : Drawing) : Bool :=
  d.isBlank && d.typeCode == TypeCode.autoShape && !d.hasDiagram &&
    d.autoShapeCode == some AutoShapeCode.mixed && !d.isLine

/-- Whether the object is kept in a mode. -/
def isKept (d : Drawing) (mode : Mode) : Bool :=
  mode != .light && !TypeCode.excluded.contains d.typeCode && !d.isEmptyFrame &&
    !(mode == .standard && d.isBlank && d.isPlain)

/-- The name of the object's type, with its outline if it is a drawn shape. -/
def typeName? (d : Drawing) : Option String :=
  if d.typeCode = TypeCode.autoShape then
    match d.autoShapeName.or (d.autoShapeCode.bind fun c => AutoShapeCode.names.lookup c) with
    | some name => some ("AutoShape-" ++ name)
    | none => some "AutoShape"
  else TypeCode.names.lookup d.typeCode

/-- Half a turn in degrees over half a turn in radians. -/
def degreesPerRadian : Float := 180 / 3.14159265358979323846264338327950288

/--
Where a line points: from the top left to the bottom right of its frame, mirrored as it is flipped
and turned as it is rotated. A frame without extent points nowhere.
-/
def direction? (d : Drawing) : Option Direction :=
  if d.width == 0 && d.height == 0 then none
  else
    let dx := if d.flipHorizontal then -d.width else d.width
    let dy := if d.flipVertical then -d.height else d.height
    some (.ofAngle (Float.atan2 dy dx * degreesPerRadian + d.rotation))

/-- The frame of the graphic that the object becomes. Positions and sizes are cut to whole points. -/
def frame (d : Drawing) : Frame where
  id := d.id
  text := Text.trim d.text
  left := Quantity.toPosition d.left
  top := Quantity.toPosition d.top
  width := some (Quantity.toPosition d.width)
  height := some (Quantity.toPosition d.height)
  typeName := d.typeName?
  rotation := if d.rotation == 0 then none else some d.rotation
  direction := if d.isLine then d.direction? else none

/-- The form of the graphic that the object becomes. -/
def form (d : Drawing) : Form :=
  if d.hasDiagram then .diagram (d.diagramLayout.getD "") (Diagram.forest d.diagramItems)
  else if d.isArrow then
    .arrow {
      beginStyle := d.beginArrowStyle
      endStyle := d.endArrowStyle
      beginId := d.beginConnectedId
      endId := d.endConnectedId }
  else .shape

/-- The graphic that the object becomes. -/
def graphic (d : Drawing) : Graphic := { d.frame with form := d.form }

/-- The graphics of a sheet in a mode, in the order of the objects. -/
def graphics (ds : List Drawing) (mode : Mode) : List Graphic :=
  (ds.filter fun d => d.isKept mode).map graphic

end Drawing

end Sheetwise.Reported
