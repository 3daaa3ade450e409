import Sheetwise.Proofs.Edges
import Sheetwise.Proofs.Reaching

/-!
# Measuring drawings from the place of an area

When sizes are read in exact numbers and none is below zero, no column begins before the sheet, so whatever
is seen through an area can be measured across from its place: the corners of the area may be in any order,
and the places and sizes of the drawings may be all that 32 bits hold.

For rows there is one exception. They are numbered from one, but a height may be kept under the number
zero, and it counts as a correction without a row that it corrects. If it falls short of the default by a
unit or more, all rows begin before the sheet, and a position at the end of 32 bits cannot be measured from
there.
-/

namespace Sheetwise

/-! ## Cutting exact numbers -/

namespace Quantity

theorem tdiv_of_neg {q : ℚ} (h : q.num ≤ 0) : q.num.tdiv q.den = -((-q.num) / q.den) := by
  rw [← Int.tdiv_eq_ediv_of_nonneg (Int.neg_nonneg.mpr h), Int.neg_tdiv, neg_neg]

theorem tdiv_le {q : ℚ} {n : Int} (h : q ≤ n) : q.num.tdiv q.den ≤ n := by
  have hden : (0 : Int) < q.den := Int.natCast_pos.mpr q.den_pos
  have hle : q.num ≤ n * q.den := by
    have hmul : q * q.den ≤ n * q.den := mul_le_mul_of_nonneg_right h (Nat.cast_nonneg _)
    rw [Rat.mul_den_eq_num] at hmul
    exact_mod_cast hmul
  rcases Int.le_total 0 q.num with hnum | hnum
  · rw [Int.tdiv_eq_ediv_of_nonneg hnum]
    exact Int.ediv_le_of_le_mul hden hle
  · rw [tdiv_of_neg hnum]
    have hquot : -n ≤ -q.num / q.den := Int.le_ediv_of_mul_le hden (by rw [neg_mul]; omega)
    omega

/-- A number is cut toward zero, so one that is less than a unit below it is cut to it. -/
theorem tdiv_nonneg {q : ℚ} (h : -1 < q) : 0 ≤ q.num.tdiv q.den := by
  rcases Int.le_total 0 q.num with hnum | hnum
  · exact Int.tdiv_nonneg hnum (Int.natCast_nonneg _)
  · have hlt : -q.num < q.den := by
      have hmul : -1 * (q.den : ℚ) < q * q.den :=
        mul_lt_mul_of_pos_right h (Nat.cast_pos.mpr q.den_pos)
      rw [Rat.mul_den_eq_num, neg_one_mul, neg_lt] at hmul
      exact_mod_cast hmul
    rw [tdiv_of_neg hnum, Int.ediv_eq_zero_of_lt (Int.neg_nonneg.mpr hnum) hlt, neg_zero]

theorem toPosition_nonneg {q : ℚ} (h : -1 < q) : 0 ≤ toPosition q := by
  have hcut := tdiv_nonneg h
  have hmax : (0 : Int) ≤ Position.max := by decide
  exact le_max_of_le_right (le_min hmax hcut)

instance : CutsBelow ℚ where
  toPosition_le _ h := max_le_max_left Position.min ((min_le_right _ _).trans (tdiv_le h))

end Quantity

/-! ## Views -/

/-- The places and the sizes of the drawings of a sheet have 32 bits. -/
structure Sheet.Placed (sheet : Sheet ℚ) : Prop where
  shapes : ∀ g ∈ sheet.shapes, Position.InRange g.left ∧ Position.InRange g.top
    ∧ (∀ n ∈ g.width, Position.InRange n) ∧ ∀ n ∈ g.height, Position.InRange n
  charts : ∀ c ∈ sheet.charts, Position.InRange c.left ∧ Position.InRange c.top
    ∧ (∀ n ∈ c.width, Position.InRange n) ∧ ∀ n ∈ c.height, Position.InRange n

namespace View

variable {sheet : Sheet ℚ} {area : PrintArea} {v : View}

theorem fits_of_placed {name : String} (hplaced : sheet.Placed) (h : ofArea name sheet area = .ok v) :
    (0 ≤ v.originX → v.FitsAcross) ∧ (0 ≤ v.originY → v.FitsDown) := by
  refine fits_of_ofArea (fun g hg => ?_) (fun c hc => ?_) h
  · obtain ⟨hleft, htop, hwidth, hheight⟩ := hplaced.shapes g hg
    exact Box.bounded_ofSize hleft htop hwidth hheight
  · obtain ⟨hleft, htop, hwidth, hheight⟩ := hplaced.charts c hc
    exact Box.bounded_ofSize hleft htop hwidth hheight

/--
**The drawings of a view can be measured from its place.** With sizes that are not below zero, all drawings
that a view keeps have positions of 32 bits from left to right when its place is taken off. They also have
from top to bottom if a height kept for row zero falls short of the default by less than a unit, and then
the view can be moved.
-/
theorem drawings_measured (name : String) (sheet : Sheet ℚ) (area : PrintArea)
    (hsizes : sheet.metrics.NonNegative) (hplaced : sheet.Placed) (v : View)
    (hv : build name sheet area { normalize := false } = .ok v) :
    v.FitsAcross
      ∧ (sheet.metrics.defaultRowHeight - 1 < sheet.metrics.rowHeight 0 →
        v.DrawingsFit ∧ ∃ u, build name sheet area { normalize := true } = .ok u) := by
  rw [build_plain_eq rfl] at hv
  obtain ⟨hacross, hdown⟩ := fits_of_placed hplaced hv
  obtain ⟨horiginX, horiginY⟩ := origin_of_ofArea hv
  have hfits : v.FitsAcross := by
    refine hacross ?_
    rw [horiginX]
    refine Quantity.toPosition_nonneg ?_
    have hleft := Metrics.colLeft_nonneg hsizes area.c1
    linarith
  refine ⟨hfits, fun hzero => ?_⟩
  have hfit : v.DrawingsFit := by
    refine drawingsFit_of_fits hfits (hdown ?_)
    rw [horiginY]
    refine Quantity.toPosition_nonneg ?_
    have htop := Metrics.rowTop_ge hsizes area.r1
    linarith
  rw [build_normalized_eq hv rfl]
  exact ⟨hfit, exists_normalize_of_fit hv hfit⟩

/-- A bar that ends where the sheet begins, and a mark at the last position of 32 bits. -/
def marked (rowHeights : SortedMap Nat ℚ) : Sheet ℚ where
  shapes := [
    { text := "bar", left := -2147483647, top := 20, width := some 2147483647, form := .shape },
    { text := "mark", left := 0, top := 2147483647, form := .shape }]
  metrics := { defaultRowHeight := 15, defaultColWidth := 48, rowHeights }

theorem placed_marked (rowHeights : SortedMap Nat ℚ) : (marked rowHeights).Placed where
  shapes := by
    have hleast : Position.min = -2147483648 := rfl
    have hgreatest : Position.max = 2147483647 := rfl
    simp [marked, Position.InRange, hleast, hgreatest]
  charts := List.forall_mem_nil _

/-- The first column, so far down that every position is above its end. -/
def tallArea : PrintArea := ⟨1, 0, 200000000, 0⟩

theorem drawings_measured_marked :
    (marked (.ofList [(2, 30)])).metrics.NonNegative ∧ (marked (.ofList [(2, 30)])).Placed
      ∧ ∃ v, build "S" (marked (.ofList [(2, 30)])) tallArea { normalize := false } = .ok v
        ∧ v.shapes.length = 2 ∧ v.DrawingsFit
        ∧ ∃ u, build "S" (marked (.ofList [(2, 30)])) tallArea { normalize := true } = .ok u := by
  have hsizes : (marked (.ofList [(2, 30)])).metrics.NonNegative :=
    ⟨by decide, by decide, by decide, by decide⟩
  have hbuilt : (build "S" (marked (.ofList [(2, 30)])) tallArea { normalize := false }).map
      (fun v => v.shapes.length) = .ok 2 := by
    decide +kernel
  obtain ⟨v, hv, hlength⟩ := Checked.map_eq_ok.mp hbuilt
  obtain ⟨-, hfits⟩ := drawings_measured "S" _ tallArea hsizes (placed_marked _) v hv
  obtain ⟨hfit, hmoved⟩ := hfits (by decide +kernel)
  exact ⟨hsizes, placed_marked _, v, hv, hlength, hfit, hmoved⟩

/--
**A height kept for row zero puts the rows before the sheet**: with one of zero, the first row begins
fifteen units above it, and the mark at the last position can not be measured from there.
-/
theorem drawings_not_measured_marked :
    (marked (.ofList [(0, 0)])).metrics.NonNegative ∧ (marked (.ofList [(0, 0)])).Placed
      ∧ tallArea.Regular
      ∧ ∃ v, build "S" (marked (.ofList [(0, 0)])) tallArea { normalize := false } = .ok v
        ∧ (∃ g ∈ v.shapes, ¬ Position.InRange (g.top - v.originY))
        ∧ ¬ ∃ u, build "S" (marked (.ofList [(0, 0)])) tallArea { normalize := true } = .ok u := by
  have hsizes : (marked (.ofList [(0, 0)])).metrics.NonNegative :=
    ⟨by decide, by decide, by decide, by decide⟩
  have hbuilt : (build "S" (marked (.ofList [(0, 0)])) tallArea { normalize := false }).map
      (fun v => (v.originY, v.shapes.map fun g => g.top)) = .ok (-15, [20, 2147483647]) := by
    decide +kernel
  obtain ⟨v, hv, hshown⟩ := Checked.map_eq_ok.mp hbuilt
  obtain ⟨horigin, htops⟩ := Prod.mk.inj hshown
  have hbeyond : ∃ g ∈ v.shapes, ¬ Position.InRange (g.top - v.originY) := by
    have hmem : (2147483647 : Int) ∈ v.shapes.map fun g => g.top := by
      rw [htops]
      decide
    obtain ⟨g, hg, htop⟩ := List.mem_map.mp hmem
    refine ⟨g, hg, fun hrange => ?_⟩
    rw [htop, horigin] at hrange
    exact absurd hrange.2 (by decide)
  refine ⟨hsizes, placed_marked _, ⟨by decide, by decide, by decide, by decide⟩, v, hv, hbeyond, ?_⟩
  rintro ⟨u, hu⟩
  rw [build_plain_eq rfl] at hv
  rw [build_normalized_eq hv rfl] at hu
  obtain ⟨g, hg, hout⟩ := hbeyond
  obtain ⟨-, -, hshapes, -⟩ := normalize_eq_ok.mp hu
  exact hout ((shapes_moved_iff.mp hshapes).1 g hg).2

end View

end Sheetwise
