import Sheetwise.PrintArea
import Sheetwise.Proofs.Rectangles

/-!
# Print areas as sets of cells

A print area stands for its cells, with rows numbered from one and columns from zero. An area that is
read from elsewhere may have its corners the wrong way round; it has no cells then.
-/

namespace Sheetwise.PrintArea

variable {area : PrintArea} {row col : Nat}

/-- A cell, in a row numbered from one, stands in an area. -/
structure Has (area : PrintArea) (row col : Nat) : Prop where
  row_ge : area.r1 ≤ row
  row_le : row ≤ area.r2
  col_ge : area.c1 ≤ col
  col_le : col ≤ area.c2

/-- The corners of an area are in order, and the row and the column after it can be numbered. -/
structure Regular (area : PrintArea) : Prop where
  rows_le : area.r1 ≤ area.r2
  cols_le : area.c1 ≤ area.c2
  rows_lt : area.r2 < Word.max
  cols_lt : area.c2 < Word.max

/-- No cell stands in both of two areas. -/
def Separate (a b : PrintArea) : Prop := ∀ row col, a.Has row col → ¬ b.Has row col

theorem has_iff :
    area.Has row col ↔ area.r1 ≤ row ∧ row ≤ area.r2 ∧ area.c1 ≤ col ∧ col ≤ area.c2 :=
  ⟨fun ⟨h1, h2, h3, h4⟩ => ⟨h1, h2, h3, h4⟩, fun ⟨h1, h2, h3, h4⟩ => ⟨h1, h2, h3, h4⟩⟩

theorem contains_iff : (area.containsRow row && area.containsCol col) = true ↔ area.Has row col := by
  simp only [containsRow, containsCol, Bool.and_eq_true, decide_eq_true_eq, has_iff, and_assoc]

/-- The corners of a rectangle lie in an area if all its cells stand there. -/
theorem containsRect_iff {b : Rect} :
    area.containsRect b = true ↔ ∀ row col, b.contains row col = true → area.Has (row + 1) col := by
  have hcorners : area.containsRect b = true
      ↔ area.r1 ≤ b.r1 + 1 ∧ b.r2 + 1 ≤ area.r2 ∧ area.c1 ≤ b.c1 ∧ b.c2 ≤ area.c2 := by
    show (decide (area.r1 ≤ b.r1 + 1) && decide (b.r2 + 1 ≤ area.r2) && decide (area.c1 ≤ b.c1) &&
      decide (b.c2 ≤ area.c2)) = true ↔ _
    simp only [Bool.and_eq_true, decide_eq_true_eq, and_assoc]
  simp only [hcorners, has_iff, Rect.contains_iff]
  constructor
  · intro h row col hin
    omega
  · intro h
    have hfirst := h b.r1 b.c1 ⟨Nat.le_refl _, b.rows_le, Nat.le_refl _, b.cols_le⟩
    have hlast := h b.r2 b.c2 ⟨b.rows_le, Nat.le_refl _, b.cols_le, Nat.le_refl _⟩
    omega

/-- Corners that count rows and columns from one, in any order, have the cells between them. -/
theorem has_ofCorners_iff {firstRow firstCol lastRow lastCol : Nat} (hfirst : 1 ≤ firstRow)
    (hlast : 1 ≤ lastRow) (hfirst' : 1 ≤ firstCol) (hlast' : 1 ≤ lastCol) :
    (ofCorners firstRow firstCol lastRow lastCol).Has row col
      ↔ min firstRow lastRow ≤ row ∧ row ≤ max firstRow lastRow
        ∧ min firstCol lastCol ≤ col + 1 ∧ col + 1 ≤ max firstCol lastCol := by
  rw [has_iff, ofCorners]
  dsimp only
  omega

end Sheetwise.PrintArea
