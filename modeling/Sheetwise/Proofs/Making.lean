import Sheetwise.Proofs.Checked
import Sheetwise.View

/-!
# How a view is made

A view is made of a sheet and may be moved then. What is drawn and the candidates are picked from the
sheet as they are; only the box of the area and the rows can end in a fault. A view is moved part by
part, and each part item by item. Nothing is moved beyond the numbers that 32 bits hold; there the whole
view ends in a fault.
-/

namespace Sheetwise

/-! ## Numbers of 32 bits -/

theorem Word.add_eq_ok {a b c : Nat} : add a b = .ok c ↔ a + b = c ∧ c ≤ max := by
  unfold add
  by_cases h : a + b ≤ max
  · rw [if_pos h, Except.ok.injEq]
    exact ⟨fun heq => ⟨heq, heq ▸ h⟩, And.left⟩
  · rw [if_neg h]
    refine iff_of_false (fun heq => by cases heq) ?_
    intro hsum
    omega

theorem Word.sub_eq_ok {a b c : Nat} : sub a b = .ok c ↔ b ≤ a ∧ a - b = c := by
  unfold sub
  by_cases h : b ≤ a
  · rw [if_pos h, Except.ok.injEq]
    exact ⟨fun heq => ⟨h, heq⟩, And.right⟩
  · rw [if_neg h]
    exact iff_of_false (fun heq => by cases heq) fun hle => h hle.1

/-! ## Making -/

/-- An area has a box if the row and the column after it can be numbered. -/
theorem Metrics.areaBox_eq_ok {α : Type} [Quantity α] {m : Metrics α} {area : PrintArea} {box : Box α} :
    m.areaBox area = .ok box ↔ area.r2 < Word.max ∧ area.c2 < Word.max
      ∧ box = ⟨m.colLeft area.c1, m.rowTop area.r1, m.colLeft (area.c2 + 1), m.rowTop (area.r2 + 1)⟩ := by
  simp only [areaBox, Checked.bind_eq_ok, Word.add_eq_ok]
  constructor
  · rintro ⟨_, ⟨rfl, hcol⟩, _, ⟨rfl, hrow⟩, h⟩
    exact ⟨hrow, hcol, (Except.ok.inj h).symm⟩
  · rintro ⟨hrow, hcol, rfl⟩
    exact ⟨_, ⟨rfl, hcol⟩, _, ⟨rfl, hrow⟩, rfl⟩

/-- The view of a sheet through an area with a given box, in which given rows are seen. -/
def View.through {α : Type} [Quantity α] (name : String) (sheet : Sheet α) (area : PrintArea)
    (box : Box α) (rows : List Row) : View where
  sheetName := name
  area := area
  shapes := sheet.shapes.filter fun g => g.box.touches box
  charts := sheet.charts.filter fun c => c.box.touches box
  rows := rows
  tableCandidates := sheet.tableCandidates.filter (containsCandidate area)
  originX := Quantity.toPosition box.left
  originY := Quantity.toPosition box.top

theorem View.ofArea_eq_ok {α : Type} [Quantity α] {name : String} {sheet : Sheet α}
    {area : PrintArea} {v : View} : ofArea name sheet area = .ok v
    ↔ ∃ box rows, sheet.metrics.areaBox area = .ok box ∧ rowsThrough area sheet.rows = .ok rows
      ∧ through name sheet area box rows = v := by
  simp only [ofArea, Checked.bind_eq_ok]
  constructor
  · rintro ⟨box, hbox, rows, hrows, heq⟩
    exact ⟨box, rows, hbox, hrows, Except.ok.inj heq⟩
  · rintro ⟨box, rows, hbox, hrows, rfl⟩
    exact ⟨box, hbox, rows, hrows, rfl⟩

/-! ## Moving -/

theorem Position.sub_eq_ok {a b c : Int} :
    Position.sub a b = .ok c ↔ a - b = c ∧ Position.min ≤ c ∧ c ≤ Position.max := by
  unfold Position.sub
  split
  · next h =>
    rw [Except.ok.injEq]
    refine ⟨fun heq => ⟨heq, heq ▸ h⟩, And.left⟩
  · next h =>
    refine iff_of_false (fun heq => by cases heq) ?_
    rintro ⟨rfl, hrange⟩
    exact h hrange

theorem Position.sub_injective {a a' b c : Int} (h : Position.sub a b = .ok c)
    (h' : Position.sub a' b = .ok c) : a = a' := by
  rw [sub_eq_ok] at h h'
  omega

/-- What stands in a place and can be put in another. -/
structure Standing (δ : Type) where
  left : δ → Int
  top : δ → Int
  put : δ → Int → Int → δ
  left_put : ∀ a x y, left (put a x y) = x
  top_put : ∀ a x y, top (put a x y) = y
  put_put : ∀ a x y x' y', put (put a x y) x' y' = put a x' y'
  put_self : ∀ a, put a (left a) (top a) = a

namespace Standing

variable {δ : Type} (s : Standing δ) {a a' b : δ} {dx dy : Int}

/-- What stands in a place, moved to the left by `dx` and up by `dy`. -/
def rebase (a : δ) (dx dy : Int) : Checked δ := do
  let left ← Position.sub (s.left a) dx
  let top ← Position.sub (s.top a) dy
  return s.put a left top

theorem rebase_eq_ok : s.rebase a dx dy = .ok b
    ↔ Position.sub (s.left a) dx = .ok (s.left b) ∧ Position.sub (s.top a) dy = .ok (s.top b)
      ∧ s.put a (s.left b) (s.top b) = b := by
  simp only [rebase, Checked.bind_eq_ok]
  constructor
  · rintro ⟨left, hleft, top, htop, heq⟩
    obtain rfl := Except.ok.inj heq
    rw [s.left_put, s.top_put]
    exact ⟨hleft, htop, rfl⟩
  · rintro ⟨hleft, htop, heq⟩
    exact ⟨_, hleft, _, htop, congrArg Except.ok heq⟩

theorem rebase_injective (h : s.rebase a dx dy = .ok b) (h' : s.rebase a' dx dy = .ok b) :
    a = a' := by
  obtain ⟨hleft, htop, hput⟩ := s.rebase_eq_ok.mp h
  obtain ⟨hleft', htop', hput'⟩ := s.rebase_eq_ok.mp h'
  -- either is what it came to, put back in its place, and they stood in the same one
  have hback : s.put b (s.left a) (s.top a) = a := by rw [← hput, s.put_put, s.put_self]
  have hback' : s.put b (s.left a') (s.top a') = a' := by rw [← hput', s.put_put, s.put_self]
  rw [← hback, ← hback', Position.sub_injective hleft hleft', Position.sub_injective htop htop']

end Standing

/-- Where a graphic stands. -/
def Graphic.standing : Standing Graphic where
  left g := g.left
  top g := g.top
  put g left top := { g with left, top }
  left_put _ _ _ := rfl
  top_put _ _ _ := rfl
  put_put _ _ _ _ _ := rfl
  put_self _ := rfl

/-- Where a chart stands. -/
def Chart.standing : Standing Chart where
  left c := c.left
  top c := c.top
  put c left top := { c with left, top }
  left_put _ _ _ := rfl
  top_put _ _ _ := rfl
  put_put _ _ _ _ _ := rfl
  put_self _ := rfl

theorem Graphic.rebase_eq (g : Graphic) (dx dy : Int) :
    g.rebase dx dy = Graphic.standing.rebase g dx dy := rfl

theorem Chart.rebase_eq (c : Chart) (dx dy : Int) :
    c.rebase dx dy = Chart.standing.rebase c dx dy := rfl

namespace View

/-- A moved view has the parts of the view, each of them moved, and its origin where it is. -/
theorem normalize_eq_ok {v u : View} : v.normalize = .ok u
    ↔ v.rows.mapM (shiftRow v.area) = .ok u.rows
      ∧ v.tableCandidates.mapM (shiftCandidate v.area) = .ok u.tableCandidates
      ∧ v.shapes.mapM (fun g => g.rebase v.originX v.originY) = .ok u.shapes
      ∧ v.charts.mapM (fun c => c.rebase v.originX v.originY) = .ok u.charts
      ∧ u.sheetName = v.sheetName ∧ u.area = v.area ∧ u.originX = 0 ∧ u.originY = 0 := by
  simp only [normalize, Checked.bind_eq_ok]
  constructor
  · rintro ⟨rows, hrows, tables, htables, shapes, hshapes, charts, hcharts, heq⟩
    cases heq
    exact ⟨hrows, htables, hshapes, hcharts, rfl, rfl, rfl, rfl⟩
  · obtain ⟨name, area, shapes, charts, rows, tables, x, y⟩ := u
    dsimp only
    rintro ⟨hrows, htables, hshapes, hcharts, rfl, rfl, rfl, rfl⟩
    exact ⟨_, hrows, _, htables, _, hshapes, _, hcharts, rfl⟩

end View

end Sheetwise
