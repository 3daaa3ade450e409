import Sheetwise.Address

/-!
# Rectangles of cells

A rectangle is given by its first and last row and its first and last column, all counted from zero
and all part of it. The corners are in order in every rectangle, so none is empty and the number of
rows and columns is never a negative difference.
-/

namespace Sheetwise

/-- A rectangle of cells, its borders included. -/
structure Rect where
  r1 : Nat
  c1 : Nat
  r2 : Nat
  c2 : Nat
  rows_le : r1 ≤ r2 := by omega
  cols_le : c1 ≤ c2 := by omega
deriving DecidableEq, Repr

namespace Rect

@[ext]
theorem ext {a b : Rect} (h1 : a.r1 = b.r1) (h2 : a.c1 = b.c1) (h3 : a.r2 = b.r2)
    (h4 : a.c2 = b.c2) : a = b := by
  cases a; cases b; simp_all

/-- The rectangle spanned by two opposite corners. -/
def ofCorners (r c r' c' : Nat) : Rect where
  r1 := min r r'
  c1 := min c c'
  r2 := max r r'
  c2 := max c c'

/-- The rectangle of a single cell. -/
def cell (row col : Nat) : Rect := ⟨row, col, row, col, Nat.le_refl _, Nat.le_refl _⟩

/-- The number of rows. -/
def rowCount (b : Rect) : Nat := b.r2 - b.r1 + 1

/-- The number of columns. -/
def colCount (b : Rect) : Nat := b.c2 - b.c1 + 1

/-- The number of cells. -/
def area (b : Rect) : Nat := b.rowCount * b.colCount

/-- Whether a cell lies in the rectangle. -/
def contains (b : Rect) (row col : Nat) : Bool :=
  decide (b.r1 ≤ row) && decide (row ≤ b.r2) && decide (b.c1 ≤ col) && decide (col ≤ b.c2)

/-- Whether two rectangles share a cell. -/
def overlaps (a b : Rect) : Bool :=
  decide (a.r1 ≤ b.r2) && decide (b.r1 ≤ a.r2) && decide (a.c1 ≤ b.c2) && decide (b.c1 ≤ a.c2)

/-- The smallest rectangle around two. -/
def union (a b : Rect) : Rect where
  r1 := min a.r1 b.r1
  c1 := min a.c1 b.c1
  r2 := max a.r2 b.r2
  c2 := max a.c2 b.c2
  rows_le := by have := a.rows_le; omega
  cols_le := by have := a.cols_le; omega

/-- The first cell, at the top left. -/
def first (b : Rect) : Address := ⟨b.r1, b.c1⟩

/-- The last cell, at the bottom right. -/
def last (b : Rect) : Address := ⟨b.r2, b.c2⟩

/-- The last cell does not come before the first. -/
theorem not_last_lt_first (b : Rect) : ¬ b.last < b.first := by
  have hrows := b.rows_le
  have hcols := b.cols_le
  rw [Address.lt_iff]
  simp only [first, last]
  omega

/-- The reference to a rectangle: both corners, also when they are the same cell. -/
def text (b : Rect) : String :=
  b.first.text ++ ":" ++ b.last.text

/-- The order by first row, then first column, then last row, then last column. -/
def compare (a b : Rect) : Ordering :=
  (((Ord.compare a.r1 b.r1).then (Ord.compare a.c1 b.c1)).then (Ord.compare a.r2 b.r2)).then
    (Ord.compare a.c2 b.c2)

/-- The rectangles in increasing order. -/
def sort (bs : List Rect) : List Rect :=
  bs.mergeSort fun a b => (a.compare b).isLE

/-- The cells of a rectangle, row by row. -/
def cells (b : Rect) : List Address :=
  (List.range b.rowCount).flatMap fun r =>
    (List.range b.colCount).map fun c => ⟨b.r1 + r, b.c1 + c⟩

end Rect

end Sheetwise
