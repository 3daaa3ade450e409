import Sheetwise.Grid
import Sheetwise.Reference

/-!
# Table candidates

Which ranges of a sheet look like tables. Ranges that the sheet declares to be tables are taken as
they are. The others are found from borders: bordered cells that touch side by side form a cluster,
overlapping boxes of clusters are merged, and a box shrunk to its content is a candidate if it is
filled densely and evenly enough.
-/

namespace Sheetwise

/-- What a region must reach to count as a table. -/
structure TableThresholds (α : Type := Float) where
  score : α
  density : α
  coverage : α
  nonemptyCells : Nat

/-- The thresholds that hold unless others are set. -/
def TableThresholds.standard {α : Type} [Quantity α] : TableThresholds α where
  score := Quantity.ofRatio 35 100
  density := Quantity.ofRatio 5 100
  coverage := Quantity.ofRatio 2 10
  nonemptyCells := 3

/-- A change of some of the thresholds. -/
structure ThresholdChange (α : Type := Float) where
  score : Option α := none
  density : Option α := none
  coverage : Option α := none
  nonemptyCells : Option Nat := none

/-- The thresholds after a change. -/
def TableThresholds.change {α : Type} (t : TableThresholds α) (c : ThresholdChange α) :
    TableThresholds α where
  score := c.score.getD t.score
  density := c.density.getD t.density
  coverage := c.coverage.getD t.coverage
  nonemptyCells := c.nonemptyCells.getD t.nonemptyCells

/-- How a region is filled. -/
structure RegionScore (α : Type := Float) where
  nonemptyCells : Nat
  density : α
  coverage : α
  headerRatio : α
  score : α

/-- Whether a score reaches all thresholds. -/
def RegionScore.isAccepted {α : Type} [Quantity α] (s : RegionScore α) (t : TableThresholds α) :
    Bool :=
  decide (t.nonemptyCells ≤ s.nonemptyCells) && decide (t.density ≤ s.density) &&
    decide (t.coverage ≤ s.coverage) && decide (t.score ≤ s.score)

namespace Table

/-- A quotient of two counts. -/
def share {α : Type} [Quantity α] (part whole : Nat) : α :=
  Quantity.ofInt (part : Int) / Quantity.ofInt (whole : Int)

/-- The first row of a rectangle. -/
def header (b : Rect) : Rect := .ofCorners b.r1 b.c1 b.r1 b.c2

/--
The score of a region: its density counts for a half, its coverage (the lesser of the shares of rows
and of columns that hold something) for three tenths, and how full its first row is for two tenths.
-/
def score {α : Type} [Quantity α] (g : Grid) (b : Rect) : RegionScore α :=
  let density : α := share (g.countIn b) b.area
  let rowCoverage : α := share (g.rowsIn b).size b.rowCount
  let colCoverage : α := share (g.colsIn b).size b.colCount
  let coverage := if rowCoverage ≤ colCoverage then rowCoverage else colCoverage
  let headerRatio : α := share (g.countIn (header b)) b.colCount
  { nonemptyCells := g.countIn b
    density, coverage, headerRatio
    score := Quantity.ofRatio 5 10 * density + Quantity.ofRatio 3 10 * coverage +
      Quantity.ofRatio 2 10 * headerRatio }

/-- Whether two cells share a side. -/
def adjacent (a b : Address) : Bool :=
  (a.row == b.row && (a.col + 1 == b.col || b.col + 1 == a.col)) ||
    (a.col == b.col && (a.row + 1 == b.row || b.row + 1 == a.row))

/-- The cells that touch one. -/
def near (a : Address) (cells : List Address) : List Address := cells.filter fun b => adjacent a b

/-- The cells that do not touch one. -/
def far (a : Address) (cells : List Address) : List Address := cells.filter fun b => !adjacent a b

theorem length_near_add_length_far (a : Address) (cells : List Address) :
    (near a cells).length + (far a cells).length = cells.length := by
  induction cells with
  | nil => rfl
  | cons b cells ih =>
    cases h : adjacent a b <;> simp only [near, far, List.filter_cons, h] at ih ⊢ <;>
      simp only [Bool.not_true, Bool.not_false, Bool.false_eq_true, if_true, if_false,
        List.length_cons] <;> omega

/-- What is reached from some cells by steps to adjacent ones among others, and what is not. -/
def flood : List Address → List Address → List Address × List Address
  | [], others => ([], others)
  | a :: reached, others =>
    let next := flood (reached ++ near a others) (far a others)
    (a :: next.1, next.2)
termination_by reached others => reached.length + 2 * others.length
decreasing_by
  have := length_near_add_length_far a others
  simp only [List.length_cons, List.length_append]
  omega

theorem length_flood_le (reached others : List Address) :
    (flood reached others).2.length ≤ others.length := by
  fun_induction flood reached others with
  | case1 => exact Nat.le_refl _
  | case2 a reached others next ih =>
    have := length_near_add_length_far a others
    simp only [next] at ih ⊢
    omega

/-- The clusters of cells that touch side by side, in the order of their first cells. -/
def clusters : List Address → List (List Address)
  | [] => []
  | a :: others => (flood [a] others).1 :: clusters (flood [a] others).2
termination_by cells => cells.length
decreasing_by
  have := length_flood_le [a] others
  simp only [List.length_cons]
  omega

/-- The box around some cells. -/
def boxOf? : List Address → Option Rect
  | [] => none
  | a :: rest => some (rest.foldl (fun b c => b.union (.cell c.row c.col)) (.cell a.row a.col))

/-- Clusters of fewer bordered cells are no frame of a table. -/
def minClusterSize : Nat := 4

/-- The boxes around the clusters of bordered cells that are large enough. -/
def clusterBoxes (borders : SortedSet Address) : List Rect :=
  ((clusters borders.keys).filter fun cluster => decide (minClusterSize ≤ cluster.length)).filterMap
    boxOf?

/-- Joins a box to the first one it overlaps, or puts it at the end. -/
def absorb (b : Rect) : List Rect → List Rect
  | [] => [b]
  | m :: rest => if m.overlaps b then m.union b :: rest else m :: absorb b rest

/-- One pass over boxes, joining each to an earlier one that it overlaps. -/
def joinOnce (boxes : List Rect) : List Rect :=
  boxes.foldl (fun merged b => absorb b merged) []

/-- Joins overlapping boxes until none overlap, and puts them in order. -/
def mergeOverlapping (boxes : List Rect) : List Rect :=
  if (joinOnce boxes).length < boxes.length then mergeOverlapping (joinOnce boxes)
  else Rect.sort (joinOnce boxes)
termination_by boxes.length

/-- A rectangle without its outer rows and columns that are empty, unless all of it is. -/
def shrink? (g : Grid) (b : Rect) : Option Rect := do
  let rows := (g.rowsIn b).keys
  let cols := (g.colsIn b).keys
  let r1 ← rows.head?
  let r2 ← rows.getLast?
  let c1 ← cols.head?
  let c2 ← cols.getLast?
  return .ofCorners r1 c1 r2 c2

/-- The regions that borders set off, shrunk to their content. -/
def borderRegions (g : Grid) : List Rect :=
  (mergeOverlapping (clusterBoxes g.borders)).filterMap (shrink? g)

/-- The rectangles of the declared tables whose reference can be read. -/
def declared (g : Grid) : List Rect := g.declaredTables.filterMap Reference.rect?

/-- The regions that overlap no declared table. -/
def undeclared (g : Grid) : List Rect :=
  (borderRegions g).filter fun b => !(declared g).any fun d => d.overlaps b

/-- The regions that pass for tables next to the declared ones. -/
def scored {α : Type} [Quantity α] (g : Grid) (t : TableThresholds α) : List Rect :=
  (undeclared g).filter fun b => (score g b : RegionScore α).isAccepted t

/-- The table candidates of a sheet as references, the declared ones first and each only once. -/
def detect {α : Type} [Quantity α] (g : Grid) (t : TableThresholds α) : List String :=
  (declared g ++ scored g t).eraseDups.map Rect.text

end Table

end Sheetwise
