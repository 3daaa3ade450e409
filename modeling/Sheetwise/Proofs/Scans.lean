import Sheetwise.Grid
import Sheetwise.Proofs.Rectangles
import Sheetwise.Proofs.Sorted

/-!
# Scans of a rectangle

The values of a grid are sorted row by row, and a rectangle is scanned from its first cell to its last.
That stretch is not the rectangle: in the rows between it has every column, in the first row it begins
and in the last row it ends at a column. So the rows of what is scanned need no second look, and the
columns do. Once those outside are passed over, what is left is what a search of the whole grid would
find in the rectangle, and in the same order.

A sorted map is asked for the stretch, and must not be asked for one that ends before it begins. The
corners of a rectangle are in order on both axes, and therefore also as cells.
-/

namespace Sheetwise

namespace Rect

variable {b : Rect}

/-- The cells of a rectangle are those from its first to its last that are in its columns. -/
theorem contains_iff_between {a : Address} : b.contains a.row a.col = true
    ↔ (¬ b.last < a ∧ ¬ a < b.first) ∧ b.c1 ≤ a.col ∧ a.col ≤ b.c2 := by
  rw [contains_iff, Address.lt_iff, Address.lt_iff]
  simp only [first, last]
  omega

end Rect

namespace Grid

/-- The cells with a value that a rectangle contains, looked for one by one. -/
def storedIn (g : Grid) (b : Rect) : List Address :=
  g.cells.keys.filter fun a => b.contains a.row a.col

theorem scan_eq_ok (g : Grid) (b : Rect) : g.scan b = .ok (g.keysIn b) :=
  Checked.eq_ok_value (g.isOk_scan b)

/-- Scanning a rectangle finds what looking at every cell finds. -/
theorem keysIn_eq_storedIn (g : Grid) (b : Rect) : g.keysIn b = g.storedIn b := by
  have hkeys : (g.cells.between b.first b.last).keys
      = g.cells.keys.filter fun a => !decide (b.last < a) && !decide (a < b.first) := by
    rw [SortedMap.between_eq_filter, SortedMap.keys, SortedMap.keys, List.filter_map]
    rfl
  have hscan := scan_eq_ok g b
  rw [scan, SortedMap.range_of_not_lt _ b.not_last_lt_first] at hscan
  rw [← Except.ok.inj hscan]
  dsimp only
  rw [hkeys, List.filter_filter, storedIn]
  refine List.filter_congr fun a _ => ?_
  rw [Bool.eq_iff_iff, Rect.contains_iff_between]
  simp [and_comm]

/--
**Queries about a rectangle answer from what is stored in it.** For every grid and every rectangle, the
stretch that is scanned does not run backwards, so that the scan succeeds, and it finds the cells with a
value that the rectangle contains. There are as many of them as are counted, and the rows and columns
with a value are theirs and no others.
-/
theorem scan_finds_stored (g : Grid) (b : Rect) :
    (¬ b.last < b.first ∧ g.scan b = .ok (g.keysIn b) ∧ g.keysIn b = g.storedIn b)
    ∧ g.countIn b = (g.storedIn b).length
    ∧ (∀ row, row ∈ (g.rowsIn b).keys ↔ ∃ a ∈ g.storedIn b, a.row = row)
    ∧ ∀ col, col ∈ (g.colsIn b).keys ↔ ∃ a ∈ g.storedIn b, a.col = col := by
  have hfound := keysIn_eq_storedIn g b
  refine ⟨⟨b.not_last_lt_first, scan_eq_ok g b, hfound⟩, ?_, ?_, ?_⟩
  · rw [countIn, hfound]
  · intro row
    rw [rowsIn, SortedSet.mem_keys_ofList, List.mem_map, hfound]
  · intro col
    rw [colsIn, SortedSet.mem_keys_ofList, List.mem_map, hfound]

end Grid

end Sheetwise
