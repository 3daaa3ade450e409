import Sheetwise.Fault
import Sheetwise.Rect

/-!
# Print areas

A print area counts its rows from one and its columns from zero, both ends included. It comes from a
rectangle read from a file, which counts both from zero, or from the corners that an application
reports, which counts both from one. An area read from elsewhere may have its corners in any order.
-/

namespace Sheetwise

/-- A print area. -/
structure PrintArea where
  r1 : Nat
  c1 : Nat
  r2 : Nat
  c2 : Nat
deriving DecidableEq, Repr, Inhabited

namespace PrintArea

/-- The print area of a rectangle: rows are numbered from one. -/
def ofRect (b : Rect) : PrintArea := ⟨b.r1 + 1, b.c1, b.r2 + 1, b.c2⟩

/-- The print area between two corners that count rows and columns from one. -/
def ofCorners (firstRow firstCol lastRow lastCol : Nat) : PrintArea where
  r1 := max (min firstRow lastRow) 1
  c1 := min firstCol lastCol - 1
  r2 := max (max firstRow lastRow) 1
  c2 := max firstCol lastCol - 1

/-- Whether a row number lies in the area. -/
def containsRow (area : PrintArea) (r : Nat) : Bool := decide (area.r1 ≤ r) && decide (r ≤ area.r2)

/-- Whether a column lies in the area. -/
def containsCol (area : PrintArea) (c : Nat) : Bool := decide (area.c1 ≤ c) && decide (c ≤ area.c2)

/-- Whether a rectangle lies in the area, corner by corner. -/
def containsRect (area : PrintArea) (b : Rect) : Bool :=
  let inner := ofRect b
  decide (area.r1 ≤ inner.r1) && decide (inner.r2 ≤ area.r2) &&
    decide (area.c1 ≤ inner.c1) && decide (inner.c2 ≤ area.c2)

/-- The rectangle of an area, with its corners in order. -/
def toRect (area : PrintArea) : Rect := .ofCorners (area.r1 - 1) area.c1 (area.r2 - 1) area.c2

end PrintArea

end Sheetwise
