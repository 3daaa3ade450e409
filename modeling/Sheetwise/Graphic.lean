import Sheetwise.Diagram
import Sheetwise.Metrics

/-!
# Graphics

What is drawn on a sheet: plain shapes, arrows and diagrams. All of them have a frame, with a place,
a size if it is known, and a text; an arrow also has its two ends and a diagram its nodes. Positions
are whole numbers of 32 bits in the units of the sheet's row heights and column widths.
-/

namespace Sheetwise

/-- A point of the compass. On a sheet south is downward. -/
inductive Direction where
  | east | southEast | south | southWest | west | northWest | north | northEast
deriving DecidableEq, Repr

namespace Direction

/-- The directions clockwise from the east. -/
def clockwise : List Direction :=
  [.east, .southEast, .south, .southWest, .west, .northWest, .north, .northEast]

/-- The initials of a direction. -/
def name : Direction → String
  | .east => "E"
  | .southEast => "SE"
  | .south => "S"
  | .southWest => "SW"
  | .west => "W"
  | .northWest => "NW"
  | .north => "N"
  | .northEast => "NE"

/-- The direction with the given initials. -/
def ofName? (s : String) : Option Direction := clockwise.find? fun d => d.name = s

/-- The direction nearest to an angle in degrees, counted clockwise from the east. -/
def ofAngle (degrees : Float) : Direction :=
  let turned := Binary64.remainder (degrees + 22.5) 360
  let turned := if turned < 0 then turned + 360 else turned
  let eighth := (Binary64.clamp 0 18446744073709551615 (turned / 45).floor).toNat % 8
  clockwise.getD eighth .east

end Direction

/-- Where a graphic stands and how it is described, whatever its form. -/
structure Frame where
  id : Option Nat := none
  text : String := ""
  left : Int
  top : Int
  width : Option Int := none
  height : Option Int := none
  typeName : Option String := none
  rotation : Option Float := none
  direction : Option Direction := none
deriving Inhabited

/-- The ends of an arrow: the style of each and the shape it is attached to. -/
structure ArrowEnds where
  beginStyle : Option Int := none
  endStyle : Option Int := none
  beginId : Option Nat := none
  endId : Option Nat := none
deriving Inhabited

/-- What kind of graphic it is, with what only that kind has. -/
inductive Form where
  | shape
  | arrow (ends : ArrowEnds)
  | diagram (layout : String) (nodes : List Diagram.Node)
deriving Inhabited

/-- The name of a form. -/
def Form.name : Form → String
  | .shape => "Shape"
  | .arrow _ => "Arrow"
  | .diagram .. => "SmartArt"

/-- A graphic on a sheet. -/
structure Graphic extends Frame where
  form : Form
deriving Inhabited

/-- The box from a place to the far end of a size; an unknown or negative size is none. -/
def Box.ofSize (left top : Int) (width height : Option Int) : Box Int where
  left := left
  top := top
  right := left + max (width.getD 0) 0
  bottom := top + max (height.getD 0) 0

/-- Whether a box in whole units and one in quantities share a point; edges belong to both. -/
def Box.touches {α : Type} [Quantity α] (a : Box Int) (b : Box α) : Bool :=
  decide (Quantity.ofInt a.left ≤ b.right) && decide (b.left ≤ Quantity.ofInt a.right) &&
    decide (Quantity.ofInt a.top ≤ b.bottom) && decide (b.top ≤ Quantity.ofInt a.bottom)

namespace Graphic

/-- The box around a graphic, a point if its size is unknown. -/
def box (g : Graphic) : Box Int := .ofSize g.left g.top g.width g.height

/-- The graphic moved to the left by `dx` and up by `dy`. -/
def rebase (g : Graphic) (dx dy : Int) : Checked Graphic := do
  let left ← Position.sub g.left dx
  let top ← Position.sub g.top dy
  return { g with left, top }

/-- The graphic without its size. -/
def withoutSize (g : Graphic) : Graphic := { g with width := none, height := none }

end Graphic

end Sheetwise
