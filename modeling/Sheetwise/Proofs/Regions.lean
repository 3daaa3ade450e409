import Sheetwise.Proofs.Merging
import Sheetwise.Proofs.Scans

/-!
# Regions shrunk to their content

A region is the box of a border without its outer rows and columns that are empty. It is looked for in
the sorted cells of the grid, of which a stretch is scanned and the columns outside are passed over;
that finds the cells in the box and no others. Trimming rows may leave a column that is empty, and
trimming columns a row; this one does not, because both are measured in the box before either is
trimmed, and every cell that counts for a row counts for its column as well.
-/

namespace Sheetwise

namespace Grid

variable {g : Grid} {b : Rect}

/-- There is a value in a cell. -/
def HasValue (g : Grid) (row col : Nat) : Prop := (g.value? ⟨row, col⟩).isSome = true

/-- The first and the last row of a rectangle have a value in it, and so have its outer columns. -/
structure Tight (g : Grid) (b : Rect) : Prop where
  top : ∃ col, b.contains b.r1 col = true ∧ g.HasValue b.r1 col
  bottom : ∃ col, b.contains b.r2 col = true ∧ g.HasValue b.r2 col
  left : ∃ row, b.contains row b.c1 = true ∧ g.HasValue row b.c1
  right : ∃ row, b.contains row b.c2 = true ∧ g.HasValue row b.c2

theorem hasValue_iff {row col : Nat} : g.HasValue row col ↔ ⟨row, col⟩ ∈ g.cells.keys :=
  SortedMap.isSome_get?_iff

/-- The scan of a rectangle finds the cells in it that have a value. -/
theorem mem_keysIn {a : Address} :
    a ∈ g.keysIn b ↔ b.contains a.row a.col = true ∧ g.HasValue a.row a.col := by
  rw [keysIn_eq_storedIn, storedIn, List.mem_filter, hasValue_iff]
  exact and_comm

theorem mem_rowsIn {row : Nat} :
    row ∈ (g.rowsIn b).keys ↔ ∃ col, b.contains row col = true ∧ g.HasValue row col := by
  rw [rowsIn, SortedSet.mem_keys_ofList, List.mem_map]
  constructor
  · rintro ⟨a, ha, rfl⟩
    exact ⟨a.col, mem_keysIn.mp ha⟩
  · rintro ⟨col, h⟩
    exact ⟨⟨row, col⟩, mem_keysIn.mpr h, rfl⟩

theorem mem_colsIn {col : Nat} :
    col ∈ (g.colsIn b).keys ↔ ∃ row, b.contains row col = true ∧ g.HasValue row col := by
  rw [colsIn, SortedSet.mem_keys_ofList, List.mem_map]
  constructor
  · rintro ⟨a, ha, rfl⟩
    exact ⟨a.row, mem_keysIn.mp ha⟩
  · rintro ⟨row, h⟩
    exact ⟨⟨row, col⟩, mem_keysIn.mpr h, rfl⟩

end Grid

namespace Table

variable {g : Grid} {b s : Rect}

theorem shrink?_eq_some_iff :
    shrink? g b = some s ↔ ∃ r1 r2 c1 c2, (g.rowsIn b).keys.head? = some r1
      ∧ (g.rowsIn b).keys.getLast? = some r2 ∧ (g.colsIn b).keys.head? = some c1
      ∧ (g.colsIn b).keys.getLast? = some c2 ∧ Rect.ofCorners r1 c1 r2 c2 = s := by
  simp only [shrink?, Option.bind_eq_bind, Option.bind_eq_some_iff, Option.pure_def,
    Option.some.injEq]
  constructor
  · rintro ⟨r1, hr1, r2, hr2, c1, hc1, c2, hc2, h⟩
    exact ⟨r1, r2, c1, c2, hr1, hr2, hc1, hc2, h⟩
  · rintro ⟨r1, r2, c1, c2, hr1, hr2, hc1, hc2, h⟩
    exact ⟨r1, hr1, r2, hr2, c1, hc1, c2, hc2, h⟩

/-- Shrinking leaves out no value. -/
theorem contains_of_shrink? (h : shrink? g b = some s) {row col : Nat}
    (hin : b.contains row col = true) (hvalue : g.HasValue row col) : s.contains row col = true := by
  obtain ⟨r1, r2, c1, c2, hr1, hr2, hc1, hc2, rfl⟩ := shrink?_eq_some_iff.mp h
  have hrow : row ∈ (g.rowsIn b).keys := Grid.mem_rowsIn.mpr ⟨col, hin, hvalue⟩
  have hcol : col ∈ (g.colsIn b).keys := Grid.mem_colsIn.mpr ⟨row, hin, hvalue⟩
  have := le_of_head?_eq_some (SortedMap.pairwise_keys _) hr1 hrow
  have := le_of_getLast?_eq_some (SortedMap.pairwise_keys _) hr2 hrow
  have := le_of_head?_eq_some (SortedMap.pairwise_keys _) hc1 hcol
  have := le_of_getLast?_eq_some (SortedMap.pairwise_keys _) hc2 hcol
  rw [Rect.contains_iff]
  simp only [Rect.ofCorners]
  omega

/-- Shrinking stays inside. -/
theorem within_of_shrink? (h : shrink? g b = some s) : s.Within b := by
  obtain ⟨r1, r2, c1, c2, hr1, hr2, hc1, hc2, rfl⟩ := shrink?_eq_some_iff.mp h
  obtain ⟨_, hfirst, _⟩ := Grid.mem_rowsIn.mp (List.mem_of_head? hr1)
  obtain ⟨_, hlast, _⟩ := Grid.mem_rowsIn.mp (List.mem_of_getLast? hr2)
  obtain ⟨_, hfirst', _⟩ := Grid.mem_colsIn.mp (List.mem_of_head? hc1)
  obtain ⟨_, hlast', _⟩ := Grid.mem_colsIn.mp (List.mem_of_getLast? hc2)
  rw [Rect.contains_iff] at hfirst hlast hfirst' hlast'
  rw [Rect.within_iff]
  simp only [Rect.ofCorners]
  omega

/-- What is left has a value on every side. -/
theorem tight_of_shrink? (h : shrink? g b = some s) : g.Tight s := by
  have hkept {row col : Nat} (hin : b.contains row col = true) (hvalue : g.HasValue row col) :
      s.contains row col = true := contains_of_shrink? h hin hvalue
  obtain ⟨r1, r2, c1, c2, hr1, hr2, hc1, hc2, rfl⟩ := shrink?_eq_some_iff.mp h
  -- the corners are in order, so each is the bound that it was found as
  have hrows : min r1 r2 = r1 ∧ max r1 r2 = r2 := by
    have := le_of_head?_eq_some (SortedMap.pairwise_keys _) hr1 (List.mem_of_getLast? hr2)
    omega
  have hcols : min c1 c2 = c1 ∧ max c1 c2 = c2 := by
    have := le_of_head?_eq_some (SortedMap.pairwise_keys _) hc1 (List.mem_of_getLast? hc2)
    omega
  constructor
  · obtain ⟨col, hin, hvalue⟩ := Grid.mem_rowsIn.mp (List.mem_of_head? hr1)
    rw [show (Rect.ofCorners r1 c1 r2 c2).r1 = r1 from hrows.1]
    exact ⟨col, hkept hin hvalue, hvalue⟩
  · obtain ⟨col, hin, hvalue⟩ := Grid.mem_rowsIn.mp (List.mem_of_getLast? hr2)
    rw [show (Rect.ofCorners r1 c1 r2 c2).r2 = r2 from hrows.2]
    exact ⟨col, hkept hin hvalue, hvalue⟩
  · obtain ⟨row, hin, hvalue⟩ := Grid.mem_colsIn.mp (List.mem_of_head? hc1)
    rw [show (Rect.ofCorners r1 c1 r2 c2).c1 = c1 from hcols.1]
    exact ⟨row, hkept hin hvalue, hvalue⟩
  · obtain ⟨row, hin, hvalue⟩ := Grid.mem_colsIn.mp (List.mem_of_getLast? hc2)
    rw [show (Rect.ofCorners r1 c1 r2 c2).c2 = c2 from hcols.2]
    exact ⟨row, hkept hin hvalue, hvalue⟩

theorem tight_of_mem_borderRegions (h : b ∈ borderRegions g) : g.Tight b := by
  obtain ⟨box, _, hshrink⟩ := List.mem_filterMap.mp h
  exact tight_of_shrink? hshrink

/-- Shrinking boxes that keep apart keeps them apart. -/
theorem pairwise_borderRegions (g : Grid) :
    (borderRegions g).Pairwise fun a b => a.overlaps b = false := by
  refine (pairwise_mergeOverlapping (clusterBoxes g.borders)).2.filterMap _ ?_
  intro box box' hapart region hregion region' hregion'
  exact Rect.overlaps_eq_false_of_within hapart (within_of_shrink? hregion)
    (within_of_shrink? hregion')

theorem pairwise_undeclared (g : Grid) :
    (undeclared g).Pairwise fun a b => a.overlaps b = false :=
  (pairwise_borderRegions g).filter _

theorem mem_undeclared :
    b ∈ undeclared g ↔ b ∈ borderRegions g ∧ ∀ d ∈ declared g, d.overlaps b = false := by
  simp [undeclared, List.mem_filter]

end Table

end Sheetwise
