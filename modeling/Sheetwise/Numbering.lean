import Sheetwise.Colors
import Sheetwise.Table

/-!
# Numbers of rows and columns

Rows and columns are counted from zero and numbered from one, both in words of 32 bits. The last index
that a word holds has therefore no number, and a stretch from the first index to the last has no
length. No sheet reaches that far, but an address, a rectangle or a grid from elsewhere may.

Each function here gives what the function of the same purpose gives, if all the numbers it takes are
words, and ends in a fault if one is not.
-/

namespace Sheetwise

/-- A value whose making numbers these indices. -/
def numbered {α : Type} (indices : List Nat) (value : α) : Checked α :=
  if indices.all fun i => decide (i < Word.max) then .ok value else .error .overflow

/-- There is no fault where every index has a number. -/
theorem numbered_eq_ok_of_forall_lt {α : Type} {indices : List Nat} (value : α)
    (h : ∀ i ∈ indices, i < Word.max) : numbered indices value = .ok value := by
  have all : (indices.all fun i => decide (i < Word.max)) = true :=
    List.all_eq_true.mpr fun i mem => decide_eq_true (h i mem)
  rw [numbered, if_pos all]

/-- The name of a column that has a number. -/
def Column.numberedName (col : Nat) : Checked String := numbered [col] (name col)

/-- An address as text, if its row and column have numbers. -/
def Address.numberedText (a : Address) : Checked String := numbered [a.row, a.col] a.text

namespace Rect

/-- The number of rows, if it is a word. -/
def numberedRowCount (b : Rect) : Checked Nat := numbered [b.r2 - b.r1] b.rowCount

/-- The number of columns, if it is a word. -/
def numberedColCount (b : Rect) : Checked Nat := numbered [b.c2 - b.c1] b.colCount

/-- The reference to a rectangle, if its corners have numbers. -/
def numberedText (b : Rect) : Checked String := numbered [b.r2, b.c2] b.text

end Rect

namespace PrintArea

/-- The print area of a rectangle whose rows have numbers. -/
def numberedOfRect (b : Rect) : Checked PrintArea := numbered [b.r2] (ofRect b)

/-- Whether a rectangle whose rows have numbers lies in an area. -/
def numberedContains (area : PrintArea) (b : Rect) : Checked Bool :=
  numbered [b.r2] (area.containsRect b)

end PrintArea

/-- A grid as rows, if all of these have numbers. -/
def Grid.numberedRows (g : Grid) (includeLinks : Bool) : Checked (List Row) :=
  numbered (g.rowNumbers includeLinks).keys (g.toRows includeLinks)

/-- The cells under each colour, if the rows of all painted ones have numbers. -/
def Color.numberedMap (g : Grid) (options : ColorOptions) : Checked ColorMap :=
  numbered ((painted g options).map fun p => p.2.row) (map g options)

namespace Table

/-- The score of a region, if its rows and columns can be counted. -/
def numberedScore {α : Type} [Quantity α] (g : Grid) (b : Rect) : Checked (RegionScore α) :=
  numbered [b.r2 - b.r1, b.c2 - b.c1] (score g b)

/--
The table candidates of a sheet, if the rows and columns of every region can be counted and those of
every candidate have numbers.
-/
def numberedDetect {α : Type} [Quantity α] (g : Grid) (t : TableThresholds α) :
    Checked (List String) :=
  numbered
    ((undeclared g).flatMap (fun b => [b.r2 - b.r1, b.c2 - b.c1]) ++
      (declared g ++ scored g t).flatMap fun b => [b.r2, b.c2])
    (detect g t)

end Table

end Sheetwise
