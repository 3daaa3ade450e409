import Sheetwise.Text.Shortest

/-!
# JSON values

The values that workbooks and bridge messages are exchanged in. Whole numbers and floating-point
numbers are kept apart, since a cell holding `2` and one holding `2.0` are different cells, and an
object keeps its members in order, repeated names included, since the order of the sheets of a
workbook is the order of an object's members.
-/

namespace Sheetwise

/-- A JSON value. -/
inductive Json where
  | null
  | bool (b : Bool)
  /-- A number written without point or exponent. -/
  | int (n : Int)
  | float (x : Float)
  | str (s : String)
  | arr (items : List Json)
  | obj (members : List (String × Json))
deriving Inhabited

namespace Json

/-- A natural number as a value. -/
def nat (n : Nat) : Json := .int n

/-- A floating-point number as a value; there is none for infinities and for what is no number. -/
def number (x : Float) : Json := if Binary64.isFinite x then .float x else .null

/-- A list as a value, given how its items are written. -/
def list {α : Type} (item : α → Json) (xs : List α) : Json := .arr (xs.map item)

/-- A value or null. -/
def option {α : Type} (item : α → Json) : Option α → Json
  | none => .null
  | some a => item a

/-- The member of an object for a field that is left out when it has no value. -/
def member {α : Type} (name : String) (item : α → Json) : Option α → List (String × Json)
  | none => []
  | some a => [(name, item a)]

end Json

end Sheetwise
