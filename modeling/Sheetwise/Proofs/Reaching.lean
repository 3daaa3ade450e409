import Mathlib.Algebra.Group.Nat.Defs
import Sheetwise.Proofs.Moving

/-!
# Drawings that reach the place of an area

A drawing is seen through an area if it shares a point with the area's box. So its far edge is not before
the near edge of that box, and the drawing itself is no further before it than it is wide, which is less
than what 32 bits hold. Behind the near edge a drawing may be anywhere; if that edge is not before the edge
of the sheet, taking its place off only makes the position smaller.

Nothing of this depends on how lengths are measured, only on what a length is cut to.
-/

namespace Sheetwise

/-- A quantity that is not above a whole number is not cut to a position above it. -/
class Quantity.CutsBelow (α : Type) [Quantity α] : Prop where
  toPosition_le {q : α} {n : Int} : n.natAbs < 2 ^ 53 → q ≤ Quantity.ofInt n →
    Quantity.toPosition q ≤ max Position.min n

/-! ## Boxes of drawings -/

/-- A box that begins at a position of 32 bits and has a size of 31. -/
structure Box.Bounded (b : Box Int) : Prop where
  left : Position.InRange b.left
  top : Position.InRange b.top
  right : b.left ≤ b.right ∧ b.right ≤ b.left + Position.max
  bottom : b.top ≤ b.bottom ∧ b.bottom ≤ b.top + Position.max

theorem Box.bounded_ofSize {left top : Int} {width height : Option Int}
    (hleft : Position.InRange left) (htop : Position.InRange top)
    (hwidth : ∀ n ∈ width, Position.InRange n) (hheight : ∀ n ∈ height, Position.InRange n) :
    (Box.ofSize left top width height).Bounded := by
  have hsize {size : Option Int} (h : ∀ n ∈ size, Position.InRange n) :
      max (size.getD 0) 0 ≤ Position.max := by
    have hmax : (0 : Int) ≤ Position.max := by decide
    cases size with
    | none => exact hmax
    | some n => exact Int.max_le.mpr ⟨(h n rfl).2, hmax⟩
  have hw := hsize hwidth
  have hh := hsize hheight
  refine ⟨hleft, htop, ?_, ?_⟩
  · show left ≤ left + max (width.getD 0) 0 ∧ left + max (width.getD 0) 0 ≤ left + Position.max
    omega
  · show top ≤ top + max (height.getD 0) 0 ∧ top + max (height.getD 0) 0 ≤ top + Position.max
    omega

/-- A position less a place that is not before the sheet, nor behind what begins there, has 32 bits. -/
theorem Position.inRange_sub {start stop place : Int} (hstart : InRange start)
    (hstop : start ≤ stop ∧ stop ≤ start + Position.max) (hplace : 0 ≤ place)
    (hreach : place ≤ Max.max Position.min stop) : InRange (start - place) := by
  have hmin : Position.min = -2147483648 := rfl
  have hmax : Position.max = 2147483647 := rfl
  unfold InRange at *
  omega

/-! ## Views -/

namespace View

/-- The drawings of a view have positions of 32 bits from left to right, measured from its place. -/
structure FitsAcross (v : View) : Prop where
  shapes : ∀ g ∈ v.shapes, Position.InRange (g.left - v.originX)
  charts : ∀ c ∈ v.charts, Position.InRange (c.left - v.originX)

/-- The drawings of a view have positions of 32 bits from top to bottom, measured from its place. -/
structure FitsDown (v : View) : Prop where
  shapes : ∀ g ∈ v.shapes, Position.InRange (g.top - v.originY)
  charts : ∀ c ∈ v.charts, Position.InRange (c.top - v.originY)

section

variable {α : Type} [Quantity α] {name : String} {sheet : Sheet α} {area : PrintArea}
  {options : ViewOptions} {v : View}

theorem drawingsFit_of_fits (hacross : v.FitsAcross) (hdown : v.FitsDown) : v.DrawingsFit where
  shapes := fun g hg => ⟨hacross.shapes g hg, hdown.shapes g hg⟩
  charts := fun c hc => ⟨hacross.charts c hc, hdown.charts c hc⟩

theorem origin_of_ofArea (h : ofArea name sheet area = .ok v) :
    v.originX = Quantity.toPosition (sheet.metrics.colLeft area.c1)
      ∧ v.originY = Quantity.toPosition (sheet.metrics.rowTop area.r1) := by
  obtain ⟨box, rows, hbox, -, rfl⟩ := ofArea_eq_ok.mp h
  obtain ⟨-, -, rfl⟩ := Metrics.areaBox_eq_ok.mp hbox
  exact ⟨rfl, rfl⟩

/-- Of what may keep a view from being moved, its area leaves the drawings only. -/
theorem exists_normalize_of_fit (hv : ofArea name sheet area = .ok v) (hfit : v.DrawingsFit) :
    ∃ u, v.normalize = .ok u := by
  have hmax : v.area.r2 < Word.max := by
    rw [area_of_ofArea hv]
    exact (exists_ofArea_iff.mp ⟨v, hv⟩).rows_lt
  exact (exists_normalize_iff (inArea_of_ofArea hv) hmax).mpr hfit

/-- A sheet whose drawings fit has a view, moved or not, through each area that is fit to be seen through. -/
theorem exists_build_iff_of_fit (hfit : ∀ v, ofArea name sheet area = .ok v → v.DrawingsFit) :
    (∃ u, build name sheet area options = .ok u) ↔ SeesThrough area sheet.rows := by
  have hiff : (∃ v, ofArea name sheet area = .ok v) ↔ SeesThrough area sheet.rows := exists_ofArea_iff
  rw [← hiff]
  cases hoptions : options.normalize with
  | false => rw [build_plain_eq hoptions]
  | true =>
      constructor
      · intro h
        obtain ⟨u, hu⟩ := h
        obtain ⟨v, hv, -⟩ := Checked.bind_eq_ok.mp hu
        exact ⟨v, hv⟩
      · intro h
        obtain ⟨v, hv⟩ := h
        obtain ⟨u, hu⟩ := exists_normalize_of_fit hv (hfit v hv)
        exact ⟨u, (build_normalized_eq hv hoptions).trans hu⟩

end

variable {α : Type} [Quantity α] [Quantity.CutsBelow α] {name : String} {sheet : Sheet α}
  {area : PrintArea} {v : View}

/-- The place of an edge that something reaches can be taken off where it starts. -/
theorem inRange_of_reach {start stop : Int} {edge : α} (hstart : Position.InRange start)
    (hstop : start ≤ stop ∧ stop ≤ start + Position.max) (hreach : edge ≤ Quantity.ofInt stop)
    (hedge : 0 ≤ Quantity.toPosition edge) :
    Position.InRange (start - Quantity.toPosition edge) := by
  have hexact : stop.natAbs < 2 ^ 53 := by
    have hmin : Position.min = -2147483648 := rfl
    have hmax : Position.max = 2147483647 := rfl
    obtain ⟨hlow, hhigh⟩ := hstart
    omega
  exact Position.inRange_sub hstart hstop hedge (Quantity.CutsBelow.toPosition_le hexact hreach)

/-- A drawing that is seen through an area can be measured from the place of the area. -/
theorem inRange_of_touches {a : Box Int} {box : Box α} (ha : a.Bounded)
    (h : a.touches box = true) :
    (0 ≤ Quantity.toPosition box.left → Position.InRange (a.left - Quantity.toPosition box.left))
      ∧ (0 ≤ Quantity.toPosition box.top → Position.InRange (a.top - Quantity.toPosition box.top)) := by
  simp only [Box.touches, Bool.and_eq_true, decide_eq_true_eq] at h
  obtain ⟨⟨⟨-, hright⟩, -⟩, hbottom⟩ := h
  exact ⟨inRange_of_reach ha.left ha.right hright, inRange_of_reach ha.top ha.bottom hbottom⟩

/-- **What is seen through an area fits in each direction in which the area is not before the sheet.** -/
theorem fits_of_ofArea (hshapes : ∀ g ∈ sheet.shapes, g.box.Bounded)
    (hcharts : ∀ c ∈ sheet.charts, c.box.Bounded) (h : ofArea name sheet area = .ok v) :
    (0 ≤ v.originX → v.FitsAcross) ∧ (0 ≤ v.originY → v.FitsDown) := by
  obtain ⟨box, rows, -, -, rfl⟩ := ofArea_eq_ok.mp h
  have hshape {g : Graphic} (hg : g ∈ (through name sheet area box rows).shapes) :=
    inRange_of_touches (hshapes g (List.mem_of_mem_filter hg)) (List.mem_filter.mp hg).2
  have hchart {c : Chart} (hc : c ∈ (through name sheet area box rows).charts) :=
    inRange_of_touches (hcharts c (List.mem_of_mem_filter hc)) (List.mem_filter.mp hc).2
  constructor
  · intro horigin
    exact ⟨fun g hg => (hshape hg).1 horigin, fun c hc => (hchart hc).1 horigin⟩
  · intro horigin
    exact ⟨fun g hg => (hshape hg).2 horigin, fun c hc => (hchart hc).2 horigin⟩

end View

end Sheetwise
