import Mathlib.Algebra.BigOperators.Group.Finset.Piecewise
import Mathlib.Algebra.Order.BigOperators.Group.Finset
import Mathlib.Data.Rat.Cast.Order
import Mathlib.Tactic.Linarith
import Mathlib.Tactic.Ring
import Sheetwise.Graphic
import Sheetwise.Proofs.Sorted

/-!
# Measuring in exact numbers

The lengths of a sheet are computed in doubles when the library runs. Here the same definitions are
read in rational numbers, of which every finite double is one. An edge then lies where the sizes of all
rows or columns before it add up to, each counted with its own size or with the default. The corrections
of the default that are added up in the computation come to the same, because each row is corrected once
at most.
-/

namespace Sheetwise

instance : Quantity ℚ where
  ofInt n := n
  ofRatio num den := num / den
  toPosition q := max Position.min (min Position.max (q.num.tdiv q.den))
  decidableLe := inferInstance

@[simp]
theorem Quantity.ofInt_rat (n : Int) : (Quantity.ofInt n : ℚ) = n := rfl

namespace Metrics

/-! ## Sums -/

theorem sum_eq (xs : List ℚ) : sum xs = xs.sum := by
  have hfold (x : ℚ) : xs.foldl (· + ·) x = x + xs.sum := by
    induction xs generalizing x with
    | nil => simp
    | cons y ys ih => rw [List.foldl_cons, ih, List.sum_cons, add_assoc]
  show xs.foldl (· + ·) (-0) = xs.sum
  rw [hfold, neg_zero, zero_add]

theorem lookup_cons_getD_sub {k k' : Nat} {v default : ℚ} {es : List (Nat × ℚ)}
    (h : ∀ e ∈ es, k' < e.1) : (SortedMap.lookup k ((k', v) :: es)).getD default - default
      = (if k = k' then v - default else 0) + ((SortedMap.lookup k es).getD default - default) := by
  have hnone (hk : k ≤ k') : SortedMap.lookup k es = none := by
    cases es with
    | nil => rfl
    | cons e es =>
        have := h e List.mem_cons_self
        rw [SortedMap.lookup, if_neg (by omega), if_pos (by omega)]
  rcases Nat.lt_trichotomy k' k with hlt | rfl | hlt
  · rw [SortedMap.lookup, if_pos hlt, if_neg (by omega), zero_add]
  · rw [SortedMap.lookup, if_neg (Nat.lt_irrefl _), if_neg (Nat.lt_irrefl _), if_pos rfl,
      hnone (Nat.le_refl _)]
    simp
  · rw [SortedMap.lookup, if_neg (by omega), if_pos hlt, if_neg (by omega),
      hnone (Nat.le_of_lt hlt), zero_add]

theorem sum_filter_eq_sum_range {default : ℚ} {bound : Nat} {es : List (Nat × ℚ)}
    (h : es.Pairwise fun a b => a.1 < b.1) :
    ((es.filter fun e => decide (e.1 < bound)).map fun e => e.2 - default).sum
      = ∑ k ∈ Finset.range bound, ((SortedMap.lookup k es).getD default - default) := by
  induction es with
  | nil => simp [SortedMap.lookup]
  | cons e es ih =>
      obtain ⟨k', v⟩ := e
      obtain ⟨head, tail⟩ := List.pairwise_cons.mp h
      -- the first entry corrects the one place below the bound that it is for, if there is one
      rw [Finset.sum_congr rfl fun k _ => lookup_cons_getD_sub head, Finset.sum_add_distrib,
        ← ih tail, Finset.sum_ite_eq' (Finset.range bound) k' fun _ => v - default]
      by_cases hk : k' < bound
      · rw [List.filter_cons_of_pos (by simpa using hk), List.map_cons, List.sum_cons,
          if_pos (Finset.mem_range.mpr hk)]
      · rw [List.filter_cons_of_neg (by simpa using hk), if_neg (by simpa using hk), zero_add]

/-- The corrections below a bound are those of all rows or columns below it. -/
theorem adjustment_eq (sizes : SortedMap Nat ℚ) (default : ℚ) (bound : Nat) :
    adjustment sizes default bound
      = ∑ k ∈ Finset.range bound, ((sizes.get? k).getD default - default) := by
  have htake : sizes.toList.takeWhile (fun e => decide (e.1 < bound))
      = sizes.entries.filter fun e => decide (e.1 < bound) := by
    apply takeWhile_eq_filter
    refine sizes.sorted.imp fun {a b} hab hb => ?_
    simp only [decide_eq_true_eq] at hb ⊢
    omega
  rw [adjustment, sum_eq, htake]
  exact sum_filter_eq_sum_range sizes.sorted

/-! ## Edges -/

variable (m : Metrics ℚ)

/-- The height of a row, its own or the default. -/
def rowHeight (r : Nat) : ℚ := (m.rowHeights.get? r).getD m.defaultRowHeight

/-- The width of a column, its own or the default. -/
def colWidth (c : Nat) : ℚ := (m.colWidths.get? c).getD m.defaultColWidth

/-- The left edge of a column is the width of all columns before it. -/
theorem colLeft_eq (c : Nat) : m.colLeft c = ∑ k ∈ Finset.range c, m.colWidth k := by
  rw [colLeft, adjustment_eq, Finset.sum_sub_distrib, Finset.sum_const, Finset.card_range,
    nsmul_eq_mul]
  show (c : ℚ) * m.defaultColWidth + (∑ k ∈ Finset.range c, m.colWidth k - c * m.defaultColWidth) = _
  ring

/--
The top of a row is the height of all rows before it. Rows are numbered from one, so a height given to
row zero is counted too, and moves every row by what it differs from the default.
-/
theorem rowTop_eq (r : Nat) :
    m.rowTop r = ∑ k ∈ Finset.range (max r 1), m.rowHeight k - m.defaultRowHeight := by
  rw [rowTop, adjustment_eq, Finset.sum_sub_distrib, Finset.sum_const, Finset.card_range,
    nsmul_eq_mul]
  have hcount : ((max r 1 : Nat) : ℚ) = ((r - 1 : Nat) : ℚ) + 1 := by
    rw [← Nat.cast_succ]
    congr 1
    omega
  show ((r - 1 : Nat) : ℚ) * m.defaultRowHeight
    + (∑ k ∈ Finset.range (max r 1), m.rowHeight k - (max r 1 : Nat) * m.defaultRowHeight) = _
  rw [hcount]
  ring

/-- No row or column has a size below zero. -/
structure NonNegative : Prop where
  defaultRowHeight : 0 ≤ m.defaultRowHeight
  defaultColWidth : 0 ≤ m.defaultColWidth
  rowHeights : ∀ e ∈ m.rowHeights.entries, 0 ≤ e.2
  colWidths : ∀ e ∈ m.colWidths.entries, 0 ≤ e.2

variable {m}

theorem getD_get?_nonneg {sizes : SortedMap Nat ℚ} {default : ℚ} (hdefault : 0 ≤ default)
    (hsizes : ∀ e ∈ sizes.entries, 0 ≤ e.2) (k : Nat) : 0 ≤ (sizes.get? k).getD default := by
  cases h : sizes.get? k with
  | none => exact hdefault
  | some v => exact hsizes _ (SortedMap.get?_eq_some_iff.mp h)

theorem colLeft_le (h : m.NonNegative) {c c' : Nat} (hc : c ≤ c') : m.colLeft c ≤ m.colLeft c' := by
  rw [colLeft_eq, colLeft_eq]
  exact Finset.sum_le_sum_of_subset_of_nonneg (Finset.range_mono hc) fun k _ _ =>
    getD_get?_nonneg h.defaultColWidth h.colWidths k

theorem rowTop_le (h : m.NonNegative) {r r' : Nat} (hr : r ≤ r') : m.rowTop r ≤ m.rowTop r' := by
  rw [rowTop_eq, rowTop_eq]
  have hle : ∑ k ∈ Finset.range (max r 1), m.rowHeight k
      ≤ ∑ k ∈ Finset.range (max r' 1), m.rowHeight k :=
    Finset.sum_le_sum_of_subset_of_nonneg (Finset.range_mono (by omega)) fun k _ _ =>
      getD_get?_nonneg h.defaultRowHeight h.rowHeights k
  linarith

end Metrics

/-! ## Boxes -/

namespace Box

/-- A point lies in a box or on its edge. -/
def Has (b : Box ℚ) (x y : ℚ) : Prop := b.left ≤ x ∧ x ≤ b.right ∧ b.top ≤ y ∧ y ≤ b.bottom

/-- A box in whole units as one in exact numbers. -/
def exact (b : Box Int) : Box ℚ := ⟨b.left, b.top, b.right, b.bottom⟩

/-- The edges of a box are in order. -/
structure Ordered {α : Type} [LE α] (b : Box α) : Prop where
  left_le_right : b.left ≤ b.right
  top_le_bottom : b.top ≤ b.bottom

theorem ordered_ofSize (left top : Int) (width height : Option Int) :
    (ofSize left top width height).Ordered where
  left_le_right := by simp only [ofSize]; omega
  top_le_bottom := by simp only [ofSize]; omega

/-- Two boxes touch if there is a point in both. -/
theorem touches_iff {a : Box Int} {b : Box ℚ} (ha : a.Ordered) (hb : b.Ordered) :
    a.touches b = true ↔ ∃ x y, a.exact.Has x y ∧ b.Has x y := by
  have haw : (a.left : ℚ) ≤ a.right := Int.cast_le.mpr ha.left_le_right
  have hah : (a.top : ℚ) ≤ a.bottom := Int.cast_le.mpr ha.top_le_bottom
  simp only [touches, Bool.and_eq_true, decide_eq_true_eq, Quantity.ofInt_rat]
  constructor
  · -- the larger of the left edges and the larger of the tops are in both
    rintro ⟨⟨⟨hleft, hright⟩, htop⟩, hbottom⟩
    refine ⟨max a.left b.left, max a.top b.top, ⟨?_, ?_, ?_, ?_⟩, ⟨?_, ?_, ?_, ?_⟩⟩
    · exact le_max_left ..
    · exact max_le haw hright
    · exact le_max_left ..
    · exact max_le hah hbottom
    · exact le_max_right ..
    · exact max_le hleft hb.left_le_right
    · exact le_max_right ..
    · exact max_le htop hb.top_le_bottom
  · rintro ⟨x, y, ⟨hxl, hxr, hyt, hyb⟩, ⟨hxl', hxr', hyt', hyb'⟩⟩
    exact ⟨⟨⟨hxl.trans hxr', hxl'.trans hxr⟩, hyt.trans hyb'⟩, hyt'.trans hyb⟩

end Box

end Sheetwise
