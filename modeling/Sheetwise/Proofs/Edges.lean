import Mathlib.Algebra.BigOperators.Intervals
import Sheetwise.Proofs.Areas
import Sheetwise.Proofs.Exact
import Sheetwise.Proofs.Making

/-!
# Edges as sums

In exact numbers an edge lies where the rows or columns before it end. A column is before another from
the first one on, and so is a row, but rows are numbered from one: a height that is kept under the number
zero belongs to no row and would still be counted. Where there is none, an edge is the sum of the sizes
before it and of nothing else.

Sizes that are not below zero put the edges in order. So an area has its box in that of every area it
lies in, and no edge lies before the edge of the sheet.
-/

namespace Sheetwise

/-- An area lies in another, corner by corner. -/
structure PrintArea.Inside (inner outer : PrintArea) : Prop where
  first_row : outer.r1 ≤ inner.r1
  last_row : inner.r2 ≤ outer.r2
  first_col : outer.c1 ≤ inner.c1
  last_col : inner.c2 ≤ outer.c2

/-- A box lies in another, edge by edge. -/
structure Box.Inside (inner outer : Box ℚ) : Prop where
  left : outer.left ≤ inner.left
  top : outer.top ≤ inner.top
  right : inner.right ≤ outer.right
  bottom : inner.bottom ≤ outer.bottom

namespace Metrics

variable {m : Metrics ℚ}

/-! ## Rows from the first one on -/

theorem rowHeight_zero (hkeys : ∀ r ∈ m.rowHeights.keys, 1 ≤ r) :
    m.rowHeight 0 = m.defaultRowHeight := by
  cases h : m.rowHeights.get? 0 with
  | none => rw [rowHeight, h, Option.getD_none]
  | some height =>
      have hmem : 0 ∈ m.rowHeights.keys := SortedMap.isSome_get?_iff.mp (by rw [h]; rfl)
      exact absurd (hkeys 0 hmem) (by decide)

/-- The top of a row is the height of the rows from the first one to the one before it. -/
theorem rowTop_eq_sum_Ico (hkeys : ∀ r ∈ m.rowHeights.keys, 1 ≤ r) {r : Nat} (hr : 1 ≤ r) :
    m.rowTop r = ∑ k ∈ Finset.Ico 1 r, m.rowHeight k := by
  have hsplit : ∑ k ∈ Finset.range r, m.rowHeight k
      = m.rowHeight 0 + ∑ k ∈ Finset.Ico 1 r, m.rowHeight k := by
    rw [Finset.range_eq_Ico, ← Finset.sum_eq_sum_Ico_succ_bot hr]
  rw [rowTop_eq, max_eq_left hr, hsplit, rowHeight_zero hkeys, add_sub_cancel_left]

/-! ## Edges in order -/

theorem colLeft_zero : m.colLeft 0 = 0 := by rw [colLeft_eq, Finset.range_zero, Finset.sum_empty]

theorem colLeft_nonneg (h : m.NonNegative) (c : Nat) : 0 ≤ m.colLeft c :=
  colLeft_zero.symm.trans_le (colLeft_le h (Nat.zero_le c))

/-- No row begins further before the sheet than a height kept for row zero falls short of the default. -/
theorem rowTop_ge (h : m.NonNegative) (r : Nat) :
    m.rowHeight 0 - m.defaultRowHeight ≤ m.rowTop r := by
  have hzero : m.rowTop 0 = m.rowHeight 0 - m.defaultRowHeight := by
    rw [rowTop_eq, max_eq_right (Nat.zero_le 1), Finset.sum_range_one]
  rw [← hzero]
  exact rowTop_le h (Nat.zero_le r)

/-- The box of an area lies in the box of each area around it. -/
theorem exists_areaBox_inside (h : m.NonNegative) {inner outer : PrintArea} {box : Box ℚ}
    (hinside : inner.Inside outer) (hbox : m.areaBox outer = .ok box) :
    ∃ box', m.areaBox inner = .ok box' ∧ box'.Inside box := by
  obtain ⟨hrow, hcol, rfl⟩ := areaBox_eq_ok.mp hbox
  refine ⟨_, areaBox_eq_ok.mpr ⟨?_, ?_, rfl⟩, ?_⟩
  · exact Nat.lt_of_le_of_lt hinside.last_row hrow
  · exact Nat.lt_of_le_of_lt hinside.last_col hcol
  · exact {
      left := colLeft_le h hinside.first_col
      top := rowTop_le h hinside.first_row
      right := colLeft_le h (Nat.succ_le_succ hinside.last_col)
      bottom := rowTop_le h (Nat.succ_le_succ hinside.last_row) }

/--
**Edges are sums of the sizes before them.** Where no height is kept for row zero, the top of a row is the
height of the rows before it and the left of a column the width of the columns before it, each with its own
size or else the default. If none of these is below zero, both grow with the number, and the box of an
area has in it the box of every area inside.
-/
theorem edges_eq_sums (m : Metrics ℚ) (hkeys : ∀ r ∈ m.rowHeights.keys, 1 ≤ r) :
    (∀ r, 1 ≤ r → m.rowTop r = ∑ k ∈ Finset.Ico 1 r, m.rowHeight k)
      ∧ (∀ c, m.colLeft c = ∑ k ∈ Finset.range c, m.colWidth k)
      ∧ (m.NonNegative → Monotone m.rowTop ∧ Monotone m.colLeft
        ∧ ∀ inner outer : PrintArea, inner.Inside outer → ∀ box, m.areaBox outer = .ok box →
          ∃ box', m.areaBox inner = .ok box' ∧ box'.Inside box) := by
  refine ⟨fun r hr => rowTop_eq_sum_Ico hkeys hr, m.colLeft_eq, fun h => ⟨?_, ?_, ?_⟩⟩
  · exact fun r r' hr => rowTop_le h hr
  · exact fun c c' hc => colLeft_le h hc
  · exact fun inner outer hinside box hbox => exists_areaBox_inside h hinside hbox

/-- The stock sizes, but for a second row of height 30 and a first column of width 100. -/
def widened : Metrics ℚ where
  defaultRowHeight := 15
  defaultColWidth := 48
  rowHeights := .ofList [(2, 30)]
  colWidths := .ofList [(0, 100)]

theorem edges_eq_sums_widened :
    (∀ r ∈ widened.rowHeights.keys, 1 ≤ r) ∧ widened.NonNegative
      ∧ (widened.rowTop 3 = 45 ∧ widened.rowTop 3 = ∑ k ∈ Finset.Ico 1 3, widened.rowHeight k)
      ∧ (widened.colLeft 2 = 148 ∧ widened.colLeft 2 = ∑ k ∈ Finset.range 2, widened.colWidth k)
      ∧ Monotone widened.rowTop := by
  have hkeys : ∀ r ∈ widened.rowHeights.keys, 1 ≤ r := by decide
  have hsizes : widened.NonNegative := ⟨by decide, by decide, by decide, by decide⟩
  obtain ⟨hrows, hcols, hordered⟩ := edges_eq_sums widened hkeys
  exact ⟨hkeys, hsizes, ⟨by decide +kernel, hrows 3 (by decide)⟩,
    ⟨by decide +kernel, hcols 2⟩, (hordered hsizes).1⟩

end Metrics

end Sheetwise
