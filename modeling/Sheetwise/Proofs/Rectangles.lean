import Mathlib.Data.List.Basic
import Sheetwise.Rect

/-!
# Rectangles as sets of cells

A rectangle stands for its cells. Whether one lies within another, whether two overlap and which one
is the smallest around two are questions about cells, and the corners only answer them. They answer
in one comparison for each side because no rectangle is empty.
-/

namespace Sheetwise.Rect

variable {a b c : Rect}

theorem contains_iff {row col : Nat} :
    a.contains row col = true ↔ a.r1 ≤ row ∧ row ≤ a.r2 ∧ a.c1 ≤ col ∧ col ≤ a.c2 := by
  simp [contains, and_assoc]

/-- Every cell of a rectangle is a cell of another. -/
def Within (a b : Rect) : Prop :=
  ∀ row col, a.contains row col = true → b.contains row col = true

/-- A rectangle lies within another if its corners do. -/
theorem within_iff : a.Within b ↔ b.r1 ≤ a.r1 ∧ a.r2 ≤ b.r2 ∧ b.c1 ≤ a.c1 ∧ a.c2 ≤ b.c2 := by
  have hrows := a.rows_le
  have hcols := a.cols_le
  constructor
  · intro h
    have hfirst := contains_iff.mp (h a.r1 a.c1 (contains_iff.mpr ⟨by omega, hrows, by omega, hcols⟩))
    have hlast := contains_iff.mp (h a.r2 a.c2 (contains_iff.mpr ⟨hrows, by omega, hcols, by omega⟩))
    omega
  · intro h row col hcell
    rw [contains_iff] at hcell ⊢
    omega

theorem Within.refl (a : Rect) : a.Within a := fun _ _ h => h

theorem Within.trans (h : a.Within b) (h' : b.Within c) : a.Within c :=
  fun row col hcell => h' row col (h row col hcell)

theorem Within.antisymm (h : a.Within b) (h' : b.Within a) : a = b := by
  rw [within_iff] at h h'
  apply ext <;> omega

theorem overlaps_iff :
    a.overlaps b = true ↔ a.r1 ≤ b.r2 ∧ b.r1 ≤ a.r2 ∧ a.c1 ≤ b.c2 ∧ b.c1 ≤ a.c2 := by
  simp [overlaps, and_assoc]

/-- Two rectangles overlap if there is a cell in both. -/
theorem overlaps_iff_exists :
    a.overlaps b = true ↔ ∃ row col, a.contains row col = true ∧ b.contains row col = true := by
  have ha := a.rows_le
  have hb := b.rows_le
  have ha' := a.cols_le
  have hb' := b.cols_le
  constructor
  · intro h
    rw [overlaps_iff] at h
    refine ⟨max a.r1 b.r1, max a.c1 b.c1, ?_, ?_⟩ <;> rw [contains_iff] <;> omega
  · rintro ⟨row, col, h, h'⟩
    rw [contains_iff] at h h'
    rw [overlaps_iff]
    omega

theorem overlaps_self (a : Rect) : a.overlaps a = true := by
  have := a.rows_le
  have := a.cols_le
  rw [overlaps_iff]
  omega

theorem overlaps_comm (a b : Rect) : a.overlaps b = b.overlaps a := by
  rw [Bool.eq_iff_iff, overlaps_iff, overlaps_iff]
  omega

theorem overlaps_eq_false_symm (h : a.overlaps b = false) : b.overlaps a = false := by
  rw [overlaps_comm, h]

instance : Std.Symm fun a b : Rect => a.overlaps b = false :=
  ⟨fun _ _ => overlaps_eq_false_symm⟩

/-- What overlaps a rectangle overlaps every one around it. -/
theorem overlaps_of_within {a' b' : Rect} (h : a.overlaps b = true) (ha : a.Within a')
    (hb : b.Within b') : a'.overlaps b' = true := by
  obtain ⟨row, col, hcell, hcell'⟩ := overlaps_iff_exists.mp h
  exact overlaps_iff_exists.mpr ⟨row, col, ha row col hcell, hb row col hcell'⟩

/-- Rectangles within ones that do not overlap do not overlap either. -/
theorem overlaps_eq_false_of_within {a' b' : Rect} (h : a'.overlaps b' = false) (ha : a.Within a')
    (hb : b.Within b') : a.overlaps b = false := by
  rw [Bool.eq_false_iff] at h ⊢
  exact fun hover => h (overlaps_of_within hover ha hb)

theorem within_union_left (a b : Rect) : a.Within (a.union b) := by
  rw [within_iff]
  exact ⟨Nat.min_le_left .., Nat.le_max_left .., Nat.min_le_left .., Nat.le_max_left ..⟩

theorem within_union_right (a b : Rect) : b.Within (a.union b) := by
  rw [within_iff]
  exact ⟨Nat.min_le_right .., Nat.le_max_right .., Nat.min_le_right .., Nat.le_max_right ..⟩

/-- The union is the smallest rectangle around two. -/
theorem union_within (ha : a.Within c) (hb : b.Within c) : (a.union b).Within c := by
  rw [within_iff] at ha hb ⊢
  simp only [union]
  omega

/-! ## Order -/

/-- Two rectangles in order: the first corners decide, and if these are equal the last ones. -/
theorem compare_eq_lt_iff : a.compare b = .lt ↔
    a.r1 < b.r1 ∨ a.r1 = b.r1 ∧ (a.c1 < b.c1 ∨ a.c1 = b.c1 ∧ (a.r2 < b.r2 ∨ a.r2 = b.r2 ∧ a.c2 < b.c2)) := by
  simp only [compare, Ordering.then_eq_lt, Ordering.then_eq_eq, Nat.compare_eq_lt, Nat.compare_eq_eq]
  omega

instance : Std.Irrefl fun a b : Rect => a.compare b = .lt :=
  ⟨fun a h => by rw [compare_eq_lt_iff] at h; omega⟩

instance : Std.Antisymm fun a b : Rect => a.compare b = .lt :=
  ⟨fun a b h h' => by rw [compare_eq_lt_iff] at h h'; omega⟩

theorem compare_eq_eq_iff : a.compare b = .eq ↔ a = b := by
  simp only [compare, Ordering.then_eq_eq, Nat.compare_eq_eq]
  constructor
  · rintro ⟨⟨⟨h1, h2⟩, h3⟩, h4⟩
    exact ext h1 h2 h3 h4
  · rintro rfl
    exact ⟨⟨⟨rfl, rfl⟩, rfl⟩, rfl⟩

theorem isLE_compare_iff : (a.compare b).isLE = true ↔ a.compare b = .lt ∨ a = b := by
  rw [← compare_eq_eq_iff]
  cases a.compare b <;> decide

end Sheetwise.Rect
