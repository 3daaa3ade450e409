import Sheetwise.Codec.Sheet
import Sheetwise.Proofs.Fields
import Sheetwise.Proofs.Named
import Sheetwise.Proofs.Reaching
import Sheetwise.Proofs.Sizes
import Sheetwise.Proofs.WholeParts

/-!
# When all views can be built

A saved workbook may give its sheets any print areas: nothing puts their corners in order, and nothing
keeps them on a sheet. What it cannot give are sizes of rows and columns, which are not saved, and
positions beyond 32 bits. That is enough for the drawings. The place of an area is where the standard
sizes put it, so it has no sign; and a drawing that is seen reaches it, so it is no further before it
than it is wide. Moving a view takes the place off the drawings, and never leaves 32 bits.

What is left are the areas themselves. One at the very end of what can be numbered has no far edge, and
one whose columns run backwards cannot cut a row.
-/

namespace Sheetwise

/-! ## Drawings -/

/-- A sheet as it comes out of a saved workbook, as far as drawings are concerned. -/
structure Sheet.Plain (sheet : Sheet) : Prop where
  metrics : sheet.metrics = .standard
  shapes : ∀ g ∈ sheet.shapes, g.box.Bounded
  charts : ∀ c ∈ sheet.charts, c.box.Bounded

instance : Quantity.CutsBelow Float where
  toPosition_le hn h := Binary64.clamp_le hn h Position.min Position.max

namespace Metrics

theorem colLeft_standard_nonneg (c : Nat) :
    0 ≤ (Quantity.toPosition (standard.colLeft c) : Int) :=
  Binary64.clamp_nonneg (Binary64.isNegative_add_minus_zero
    (Binary64.isNegative_ofInt_mul c (by decide +kernel))) (by decide)

theorem rowTop_standard_nonneg (r : Nat) :
    0 ≤ (Quantity.toPosition (standard.rowTop r) : Int) :=
  Binary64.clamp_nonneg (Binary64.isNegative_add_minus_zero
    (Binary64.isNegative_ofInt_mul (r - 1) (by decide +kernel))) (by decide)

end Metrics

namespace View

variable {name : String} {sheet : Sheet} {area : PrintArea} {options : ViewOptions} {v : View}

/-- **The drawings that are seen on a saved sheet can always be moved.** -/
theorem drawingsFit_of_ofArea (hsheet : sheet.Plain) (h : ofArea name sheet area = .ok v) :
    v.DrawingsFit := by
  obtain ⟨hacross, hdown⟩ := fits_of_ofArea hsheet.shapes hsheet.charts h
  obtain ⟨horiginX, horiginY⟩ := origin_of_ofArea h
  rw [hsheet.metrics] at horiginX horiginY
  refine drawingsFit_of_fits (hacross ?_) (hdown ?_)
  · rw [horiginX]
    exact Metrics.colLeft_standard_nonneg area.c1
  · rw [horiginY]
    exact Metrics.rowTop_standard_nonneg area.r1

/-- A saved sheet has a view through an area, moved or not, if the area is fit to be seen through. -/
theorem exists_build_iff (hsheet : sheet.Plain) :
    (∃ u, build name sheet area options = .ok u) ↔ SeesThrough area sheet.rows :=
  exists_build_iff_of_fit fun _ => drawingsFit_of_ofArea hsheet

end View

/-! ## Saved workbooks -/

theorem Box.bounded_of_members {r : Json.Record} {left top : Int} {width height : Option Int}
    (hleft : r.required? "l" Json.int32? = some left) (htop : r.required? "t" Json.int32? = some top)
    (hwidth : r.optional? "w" Json.int32? = some width)
    (hheight : r.optional? "h" Json.int32? = some height) :
    (Box.ofSize left top width height).Bounded :=
  bounded_ofSize (Json.isInt32_of_required? hleft) (Json.isInt32_of_required? htop)
    (Json.isInt32_of_optional? hwidth) (Json.isInt32_of_optional? hheight)

theorem Frame.bounded_of_ofRecord? {r : Json.Record} {f : Frame} (h : Frame.ofRecord? r = some f) :
    (Box.ofSize f.left f.top f.width f.height).Bounded := by
  simp only [ofRecord?, Option.bind_eq_bind, Option.bind_eq_some_iff] at h
  obtain ⟨_, -, _, -, left, hleft, top, htop, width, hwidth, height, hheight, _, -, _, -, _, -, h⟩ := h
  cases h
  exact Box.bounded_of_members hleft htop hwidth hheight

theorem Graphic.bounded_of_ofJson? {j : Json} {g : Graphic} (h : Graphic.ofJson? j = some g) :
    g.box.Bounded := by
  simp only [ofJson?, Option.bind_eq_bind, Option.bind_eq_some_iff] at h
  obtain ⟨_, -, _, -, _, -, _, -, frame, hframe, h⟩ := h
  cases h
  exact Frame.bounded_of_ofRecord? hframe

theorem Chart.bounded_of_ofJson? {j : Json} {c : Chart} (h : Chart.ofJson? j = some c) :
    c.box.Bounded := by
  simp only [ofJson?, Option.bind_eq_bind, Option.bind_eq_some_iff] at h
  obtain ⟨_, -, _, -, _, -, _, -, _, -, _, -, _, -, left, hleft, top, htop, width, hwidth, height,
    hheight, _, -, h⟩ := h
  cases h
  exact Box.bounded_of_members hleft htop hwidth hheight

theorem Json.exists_of_mem_required? {β : Type} {read : Json → Option β} {r : Json.Record}
    {name : String} {ys : List β} (h : r.required? name (Json.list? read) = some ys) :
    ∀ y ∈ ys, ∃ j, read j = some y := by
  intro y hy
  obtain ⟨_, -, hread⟩ := Option.bind_eq_some_iff.mp h
  exact Json.exists_of_mem_list? hread hy

theorem Sheet.plain_of_ofJson? {j : Json} {sheet : Sheet} (h : Sheet.ofJson? j = some sheet) :
    sheet.Plain := by
  simp only [ofJson?, Option.bind_eq_bind, Option.bind_eq_some_iff] at h
  obtain ⟨_, -, _, -, shapes, hshapes, charts, hcharts, _, -, _, -, _, -, _, -, h⟩ := h
  cases h
  refine ⟨rfl, ?_, ?_⟩
  · intro g hg
    obtain ⟨_, hj⟩ := Json.exists_of_mem_required? hshapes g hg
    exact Graphic.bounded_of_ofJson? hj
  · intro c hc
    obtain ⟨_, hj⟩ := Json.exists_of_mem_required? hcharts c hc
    exact Chart.bounded_of_ofJson? hj

theorem Workbook.plain_of_ofJson? {j : Json} {w : Workbook} (h : Workbook.ofJson? j = some w) :
    ∀ e ∈ w.sheets.toList, e.2.Plain := by
  simp only [ofJson?, Option.bind_eq_bind, Option.bind_eq_some_iff] at h
  obtain ⟨_, -, _, -, sheets, hsheets, h⟩ := h
  cases h
  obtain ⟨_, -, hsheets⟩ := Option.bind_eq_some_iff.mp hsheets
  obtain ⟨entries, hentries, rfl⟩ := Option.map_eq_some_iff.mp hsheets
  intro e he
  obtain ⟨_, hj⟩ := Json.exists_of_mem_entries? hentries (Named.mem_of_mem_ofList he)
  exact Sheet.plain_of_ofJson? hj

namespace Workbook

/--
**The views of a saved workbook can be built exactly if each of its areas is fit to be seen through**:
whether the views are moved or not, and whether those of pages are among them or not. Nothing else that a
workbook may hold can keep them from being built.
-/
theorem views_isOk_iff {j : Json} {w : Workbook} (h : ofJson? j = some w) (options : ViewOptions) :
    (∃ vs, w.views options = .ok vs) ↔ ∀ e ∈ w.sheets.toList, ∀ area ∈ View.areas e.2 options,
      View.SeesThrough area e.2.rows := by
  have hplain := plain_of_ofJson? h
  rw [views_eq, Checked.exists_mapM_eq_ok_iff]
  simp only [shown, List.forall_mem_flatMap, List.forall_mem_map]
  refine forall₂_congr fun e he => forall₂_congr fun area _ => ?_
  exact View.exists_build_iff (hplain e he)

/-- A saved workbook with a text in the first cell of its only sheet, and with one print area. -/
def savedWith (area : PrintArea) : Json := toJson {
  bookName := "book"
  sheets := .ofList [("S", {
    rows := [{ number := 1, cells := .ofList [(0, .text "x")] }]
    printAreas := [area]
    metrics := .standard : Sheet })] }

theorem views_isOk_iff_saved :
    ∃ w, ofJson? (savedWith ⟨1, 0, 1, 0⟩) = some w
      ∧ ((∃ vs, w.views { normalize := true } = .ok vs) ↔ ∀ e ∈ w.sheets.toList,
        ∀ area ∈ View.areas e.2 { normalize := true }, View.SeesThrough area e.2.rows) := by
  have hsome : (ofJson? (savedWith ⟨1, 0, 1, 0⟩)).isSome = true := by decide +kernel
  obtain ⟨w, hw⟩ := Option.isSome_iff_exists.mp hsome
  exact ⟨w, hw, views_isOk_iff hw { normalize := true }⟩

/-- **An area whose columns run backwards has no view**, though the workbook can be read. -/
theorem views_fault_of_backwards :
    ∃ w, ofJson? (savedWith ⟨1, 2, 1, 0⟩) = some w ∧ w.views {} = .error .invertedRange := by
  have hviews : (ofJson? (savedWith ⟨1, 2, 1, 0⟩)).map (fun w => (w.views {}).map List.length)
      = some (.error .invertedRange) := by
    decide +kernel
  obtain ⟨w, hw, hfault⟩ := Option.map_eq_some_iff.mp hviews
  refine ⟨w, hw, ?_⟩
  cases hresult : w.views {} with
  | error fault =>
      rw [hresult] at hfault
      exact congrArg Except.error (Except.error.inj hfault)
  | ok vs =>
      rw [hresult] at hfault
      cases hfault

end Workbook

end Sheetwise
