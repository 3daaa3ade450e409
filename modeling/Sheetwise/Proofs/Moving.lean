import Sheetwise.Proofs.Shifting

/-!
# Views moved to the corner of their area

Nothing that a view shows lies before the corner of its area, so all of it can be counted from there; only
a drawing may end up beyond the positions that 32 bits hold, and then the view is not moved at all.

A view that has been moved keeps its area, but not its place on the sheet. Moved once more, its drawings
stay where they are, and the corner is taken off everything else again.
-/

namespace Sheetwise

/-! ## Drawings -/

/-- A position has 32 bits. -/
def Position.InRange (p : Int) : Prop := Position.min ≤ p ∧ p ≤ Position.max

namespace Standing

variable {δ : Type} (s : Standing δ) {dx dy : Int} {l l' : List δ}

theorem mapM_rebase_eq_ok : l.mapM (fun a => s.rebase a dx dy) = .ok l'
    ↔ (∀ a ∈ l, Position.InRange (s.left a - dx) ∧ Position.InRange (s.top a - dy))
      ∧ l.map (fun a => s.put a (s.left a - dx) (s.top a - dy)) = l' := by
  refine Checked.mapM_eq_ok_map_iff fun a b => ?_
  rw [s.rebase_eq_ok, Position.sub_eq_ok, Position.sub_eq_ok]
  constructor
  · rintro ⟨⟨hleft, hleft'⟩, ⟨htop, htop'⟩, hput⟩
    rw [hleft, htop]
    exact ⟨⟨hleft', htop'⟩, hput⟩
  · rintro ⟨⟨hleft, htop⟩, rfl⟩
    rw [s.left_put, s.top_put]
    exact ⟨⟨rfl, hleft⟩, ⟨rfl, htop⟩, rfl⟩

/-- Drawings that have been moved have places of 32 bits, and stay there when nothing is taken off. -/
theorem mapM_rebase_zero (h : l.mapM (fun a => s.rebase a dx dy) = .ok l') :
    l'.mapM (fun a => s.rebase a 0 0) = .ok l' := by
  obtain ⟨hrange, rfl⟩ := s.mapM_rebase_eq_ok.mp h
  rw [mapM_rebase_eq_ok]
  constructor
  · intro b hb
    obtain ⟨a, ha, rfl⟩ := List.mem_map.mp hb
    rw [s.left_put, s.top_put, Int.sub_zero, Int.sub_zero]
    exact hrange a ha
  · conv_rhs => rw [← List.map_id (List.map _ l)]
    refine List.map_congr_left fun b _ => ?_
    rw [Int.sub_zero, Int.sub_zero, s.put_self, id]

end Standing

/-! ## Views -/

namespace View

/-- The drawings of a view have places of 32 bits when its place on the sheet is taken off. -/
structure DrawingsFit (v : View) : Prop where
  shapes : ∀ g ∈ v.shapes,
    Position.InRange (g.left - v.originX) ∧ Position.InRange (g.top - v.originY)
  charts : ∀ c ∈ v.charts,
    Position.InRange (c.left - v.originX) ∧ Position.InRange (c.top - v.originY)

/-- A view shows what another does, counted from the corner of its area and measured from its place. -/
structure MovedTo (v u : View) : Prop where
  sheetName : u.sheetName = v.sheetName
  area : u.area = v.area
  rows : List.Forall₂ (Row.Moved v.area) v.rows u.rows
  tables : List.Forall₂ (CandidateMoved v.area) v.tableCandidates u.tableCandidates
  shapes : u.shapes = v.shapes.map fun g =>
    { g with left := g.left - v.originX, top := g.top - v.originY }
  charts : u.charts = v.charts.map fun c =>
    { c with left := c.left - v.originX, top := c.top - v.originY }

variable {v u : View}

theorem exists_rows_moved (hv : v.InArea) (hmax : v.area.r2 < Word.max) :
    ∃ rows, v.rows.mapM (shiftRow v.area) = .ok rows :=
  Checked.exists_mapM_eq_ok_iff.mpr fun row hrow =>
    exists_shiftRow (hv.numbers row hrow) (hv.columns row hrow) hmax

theorem exists_tables_moved (hv : v.InArea) :
    ∃ tables, v.tableCandidates.mapM (shiftCandidate v.area) = .ok tables :=
  Checked.exists_mapM_eq_ok_iff.mpr fun s hs => exists_shiftCandidate (hv.tables s hs)

theorem shapes_moved_iff {shapes : List Graphic} :
    v.shapes.mapM (fun g => g.rebase v.originX v.originY) = .ok shapes
      ↔ (∀ g ∈ v.shapes,
          Position.InRange (g.left - v.originX) ∧ Position.InRange (g.top - v.originY))
        ∧ v.shapes.map (fun g => { g with left := g.left - v.originX, top := g.top - v.originY })
          = shapes :=
  Graphic.standing.mapM_rebase_eq_ok

theorem charts_moved_iff {charts : List Chart} :
    v.charts.mapM (fun c => c.rebase v.originX v.originY) = .ok charts
      ↔ (∀ c ∈ v.charts,
          Position.InRange (c.left - v.originX) ∧ Position.InRange (c.top - v.originY))
        ∧ v.charts.map (fun c => { c with left := c.left - v.originX, top := c.top - v.originY })
          = charts :=
  Chart.standing.mapM_rebase_eq_ok

/-- Only drawings can keep a view from being moved. -/
theorem exists_normalize_iff (hv : v.InArea) (hmax : v.area.r2 < Word.max) :
    (∃ u, v.normalize = .ok u) ↔ v.DrawingsFit := by
  constructor
  · intro h
    obtain ⟨u, hu⟩ := h
    obtain ⟨-, -, hshapes, hcharts, -⟩ := normalize_eq_ok.mp hu
    exact ⟨(shapes_moved_iff.mp hshapes).1, (charts_moved_iff.mp hcharts).1⟩
  · intro hfit
    obtain ⟨rows, hrows⟩ := exists_rows_moved hv hmax
    obtain ⟨tables, htables⟩ := exists_tables_moved hv
    have hshapes := shapes_moved_iff.mpr ⟨hfit.shapes, rfl⟩
    have hcharts := charts_moved_iff.mpr ⟨hfit.charts, rfl⟩
    exact ⟨⟨v.sheetName, v.area, _, _, rows, tables, 0, 0⟩,
      normalize_eq_ok.mpr ⟨hrows, htables, hshapes, hcharts, rfl, rfl, rfl, rfl⟩⟩

theorem movedTo_of_normalize (hv : v.InArea) (hfirst : 1 ≤ v.area.r1) (h : v.normalize = .ok u) :
    v.MovedTo u := by
  obtain ⟨hrows, htables, hshapes, hcharts, hname, harea, -, -⟩ := normalize_eq_ok.mp h
  rw [Checked.mapM_eq_ok] at hrows htables
  refine ⟨hname, harea, ?_, ?_, (shapes_moved_iff.mp hshapes).2.symm,
    (charts_moved_iff.mp hcharts).2.symm⟩
  · exact hrows.imp fun row row' hrow => (shiftRow_eq_ok.mp hrow).1
  · have hmem := (List.forall₂_and_left _ _).mpr ⟨hv.tables, htables⟩
    exact hmem.imp fun s s' hs => candidateMoved_of_shiftCandidate hfirst hs.1 hs.2

theorem build_normalized_eq {α : Type} [Quantity α] {name : String} {sheet : Sheet α}
    {area : PrintArea} {options : ViewOptions} {v : View} (hv : ofArea name sheet area = .ok v)
    (hoptions : options.normalize = true) : build name sheet area options = v.normalize := by
  rw [build, hv, hoptions]
  rfl

theorem build_plain_eq {α : Type} [Quantity α] {name : String} {sheet : Sheet α}
    {area : PrintArea} {options : ViewOptions} (hoptions : options.normalize = false) :
    build name sheet area options = ofArea name sheet area := by
  rw [build, hoptions]
  cases ofArea name sheet area <;> rfl

theorem area_of_ofArea {α : Type} [Quantity α] {name : String} {sheet : Sheet α} {area : PrintArea}
    {v : View} (h : ofArea name sheet area = .ok v) : v.area = area := by
  obtain ⟨box, rows, -, -, rfl⟩ := ofArea_eq_ok.mp h
  rfl

end View

/-- The corners of an area are in order and lie on a sheet; its rows are numbered from one. -/
structure PrintArea.OnSheet (area : PrintArea) : Prop where
  row_pos : 1 ≤ area.r1
  rows_le : area.r1 ≤ area.r2
  cols_le : area.c1 ≤ area.c2
  rows_on : area.r2 ≤ maxRows
  cols_on : area.c2 < maxColumns

namespace View

/--
**A view that is moved to the corner of its area is the same view, counted from there.**

Every area on a sheet has a view, whose rows and candidates can be moved without taking anything from a
smaller number. The view can be moved if its drawings stay within 32 bits, and then only the places change:
rows and columns are counted from the corner, candidates are replaced by the text of their rectangle counted
from the corner, and all drawings are measured from one place.
-/
theorem build_normalized {α : Type} [Quantity α] (name : String) (sheet : Sheet α)
    (area : PrintArea) (harea : area.OnSheet) (options : ViewOptions) :
    ∃ v, build name sheet area { options with normalize := false } = .ok v
      ∧ (∃ rows, v.rows.mapM (shiftRow area) = .ok rows)
      ∧ (∃ tables, v.tableCandidates.mapM (shiftCandidate area) = .ok tables)
      ∧ ((∃ u, build name sheet area { options with normalize := true } = .ok u) ↔ v.DrawingsFit)
      ∧ ∀ u, build name sheet area { options with normalize := true } = .ok u → v.MovedTo u := by
  have hrows := harea.rows_on
  have hcols := harea.cols_on
  have hrowMax : area.r2 < Word.max := by
    show area.r2 < 4294967295
    unfold maxRows at hrows
    omega
  have hcolMax : area.c2 < Word.max := by
    show area.c2 < 4294967295
    unfold maxColumns at hcols
    omega
  have hsees : SeesThrough area sheet.rows :=
    ⟨hrowMax, hcolMax, fun _ _ _ => Or.inl harea.cols_le⟩
  obtain ⟨v, hv⟩ := exists_ofArea_iff.mpr hsees
  have hin := inArea_of_ofArea hv
  obtain rfl := area_of_ofArea hv
  rw [build_plain_eq rfl, build_normalized_eq hv rfl]
  exact ⟨v, hv, exists_rows_moved hin hrowMax, exists_tables_moved hin,
    exists_normalize_iff hin hrowMax, fun u hu => movedTo_of_normalize hin harea.row_pos hu⟩

/-- A list under a heading, with a table and a bar beside it that reaches out of the area of the list. -/
def parts : Sheet where
  rows := [
    { number := 1, cells := .ofList [(0, .text "Parts")] },
    { number := 3
      cells := .ofList [(0, .int 1), (1, .text "bolt"), (7, .text "see below")]
      links := some (.ofList [(1, "#bolts")]) },
    { number := 4, cells := .ofList [(1, .text "nut")] }]
  shapes := [{ text := "bar", left := 40, top := 35, width := some 500, form := .shape }]
  tableCandidates := ["B3:c4", "A1:C9"]
  metrics := .standard

/-- The area of the list, without its first column. -/
def partsArea : PrintArea := ⟨3, 1, 4, 2⟩

theorem build_normalized_parts :
    partsArea.OnSheet
      ∧ ∃ v, build "Parts" parts partsArea { normalize := false } = .ok v
        ∧ (∃ rows, v.rows.mapM (shiftRow partsArea) = .ok rows)
        ∧ (∃ tables, v.tableCandidates.mapM (shiftCandidate partsArea) = .ok tables)
        ∧ ((∃ u, build "Parts" parts partsArea { normalize := true } = .ok u) ↔ v.DrawingsFit)
        ∧ ∀ u, build "Parts" parts partsArea { normalize := true } = .ok u → v.MovedTo u := by
  have harea : partsArea.OnSheet :=
    ⟨by decide, by decide, by decide, by decide, by decide⟩
  exact ⟨harea, build_normalized "Parts" parts partsArea harea {}⟩

example : (build "Parts" parts partsArea { normalize := true }).map (fun u =>
    ((Row.linksOf u.rows, u.tableCandidates), u.shapes.map fun g => (g.left, g.top)))
    = .ok (([(1, 0, "#bolts")], ["A1:B2"]), [(-8, 5)]) := by
  decide +kernel

/-! ## Moving again -/

theorem rows_again_iff {area : PrintArea} {rows rows' : List Row}
    (h : rows.mapM (shiftRow area) = .ok rows') :
    rows'.mapM (shiftRow area) = .ok rows'
      ↔ (rows' ≠ [] → area.r1 = 1) ∧ ((∃ row ∈ rows', row.Filled) → area.c1 = 0) := by
  have hrow : ∀ row ∈ rows',
      shiftRow area row = .ok row ↔ area.r1 = 1 ∧ (row.Filled → area.c1 = 0) := by
    intro row hmem
    obtain ⟨row₀, -, hshift⟩ := Checked.exists_of_mem_mapM h hmem
    obtain ⟨hmoved, hmax⟩ := shiftRow_eq_ok.mp hshift
    have hnumber := hmoved.number
    exact shiftRow_self_iff (by omega) hmax
  rw [Checked.mapM_eq_ok, List.forall₂_same, forall₂_congr hrow]
  constructor
  · intro hall
    refine ⟨?_, ?_⟩
    · intro hne
      obtain ⟨row, hmem⟩ := List.exists_mem_of_ne_nil _ hne
      exact (hall row hmem).1
    · intro hfilled
      obtain ⟨row, hmem, hfilled⟩ := hfilled
      exact (hall row hmem).2 hfilled
  · intro hall row hmem
    exact ⟨hall.1 (List.ne_nil_of_mem hmem), fun hfilled => hall.2 ⟨row, hmem, hfilled⟩⟩

theorem tables_again_iff {area : PrintArea} {tables tables' : List String}
    (hin : ∀ s ∈ tables, containsCandidate area s = true)
    (h : tables.mapM (shiftCandidate area) = .ok tables') :
    tables'.mapM (shiftCandidate area) = .ok tables'
      ↔ (tables' ≠ [] → area.r1 ≤ 1 ∧ area.c1 = 0) := by
  have htable : ∀ s ∈ tables',
      shiftCandidate area s = .ok s ↔ area.r1 ≤ 1 ∧ area.c1 = 0 := by
    intro s hmem
    obtain ⟨s₀, hs₀, hshift⟩ := Checked.exists_of_mem_mapM h hmem
    obtain ⟨b, hb, -, -⟩ := exists_rect_of_contained (hin s₀ hs₀)
    obtain ⟨b', hmoved, rfl⟩ := (shiftCandidate_eq_ok hb).mp hshift
    exact shiftCandidate_self_iff (hmoved.onSheet (Reference.onSheet_of_rect? hb))
  rw [Checked.mapM_eq_ok, List.forall₂_same, forall₂_congr htable]
  constructor
  · intro hall hne
    obtain ⟨s, hmem⟩ := List.exists_mem_of_ne_nil _ hne
    exact hall s hmem
  · intro hall s hmem
    exact hall (List.ne_nil_of_mem hmem)

/--
**A view that has been moved stays as it is when it is moved again exactly if its area begins where
everything in it is counted from**: in the first row if there are rows, in the first column if there is
something in them, and in both if there are candidates.
-/
theorem normalize_again_iff {α : Type} [Quantity α] {name : String} {sheet : Sheet α}
    {area : PrintArea} {options : ViewOptions} (hoptions : options.normalize = true) {u : View}
    (hu : build name sheet area options = .ok u) :
    u.normalize = .ok u ↔ (u.rows ≠ [] → area.r1 = 1)
      ∧ ((∃ row ∈ u.rows, row.Filled) → area.c1 = 0)
      ∧ (u.tableCandidates ≠ [] → area.r1 ≤ 1 ∧ area.c1 = 0) := by
  obtain ⟨v, hv, -⟩ := Checked.bind_eq_ok.mp hu
  have hin := inArea_of_ofArea hv
  obtain rfl := area_of_ofArea hv
  rw [build_normalized_eq hv hoptions] at hu
  obtain ⟨hrows, htables, hshapes, hcharts, -, harea, hx, hy⟩ := normalize_eq_ok.mp hu
  -- drawings stay where they are, because the place of the view is gone
  have hshapesAgain : u.shapes.mapM (fun g => g.rebase u.originX u.originY) = .ok u.shapes := by
    rw [hx, hy]
    exact Graphic.standing.mapM_rebase_zero hshapes
  have hchartsAgain : u.charts.mapM (fun c => c.rebase u.originX u.originY) = .ok u.charts := by
    rw [hx, hy]
    exact Chart.standing.mapM_rebase_zero hcharts
  rw [normalize_eq_ok, harea, rows_again_iff hrows, tables_again_iff hin.tables htables]
  constructor
  · rintro ⟨⟨hrow, hcol⟩, htable, -⟩
    exact ⟨hrow, hcol, htable⟩
  · rintro ⟨hrow, hcol, htable⟩
    exact ⟨⟨hrow, hcol⟩, htable, hshapesAgain, hchartsAgain, rfl, rfl, hx, hy⟩

theorem normalize_again_iff_parts :
    ({ normalize := true } : ViewOptions).normalize = true
      ∧ ∃ u, build "Parts" parts partsArea { normalize := true } = .ok u
        ∧ (u.normalize = .ok u ↔ (u.rows ≠ [] → partsArea.r1 = 1)
          ∧ ((∃ row ∈ u.rows, row.Filled) → partsArea.c1 = 0)
          ∧ (u.tableCandidates ≠ [] → partsArea.r1 ≤ 1 ∧ partsArea.c1 = 0)) := by
  have hbuilt : (build "Parts" parts partsArea { normalize := true }).isOk = true := by
    decide +kernel
  cases hu : build "Parts" parts partsArea { normalize := true } with
  | error fault =>
      rw [hu] at hbuilt
      cases hbuilt
  | ok u => exact ⟨rfl, u, rfl, normalize_again_iff rfl hu⟩

/-- A sheet with one cell, in its second row and column. -/
def lone : Sheet where
  rows := [{ number := 2, cells := .ofList [(1, .text "x")] }]
  metrics := .standard

/--
**A view that is moved again may be lost**: the only cell of the area, in row one after it was moved, is
to be moved up from there by the row of the area.
-/
theorem normalize_again_overflows :
    PrintArea.OnSheet ⟨2, 1, 2, 1⟩
      ∧ ∃ u, build "S" lone ⟨2, 1, 2, 1⟩ { normalize := true } = .ok u
        ∧ u.rows.map (fun row => (row.number, row.cells.keys)) = [(1, [0])]
        ∧ u.normalize ≠ .ok u ∧ ∃ fault, u.normalize = .error fault := by
  have hbuilt : (build "S" lone ⟨2, 1, 2, 1⟩ { normalize := true }).map (fun u =>
      (u.rows.map fun row => (row.number, row.cells.keys), u.normalize.isOk))
        = .ok ([(1, [0])], false) := by
    decide +kernel
  refine ⟨⟨by decide, by decide, by decide, by decide, by decide⟩, ?_⟩
  obtain ⟨u, hu, hshown⟩ := Checked.map_eq_ok.mp hbuilt
  obtain ⟨hrows, hfails⟩ := Prod.mk.inj hshown
  cases hagain : u.normalize with
  | ok u' =>
      rw [hagain] at hfails
      cases hfails
  | error fault =>
      have hne : u.normalize ≠ .ok u := by
        intro hsame
        rw [hagain] at hsame
        cases hsame
      exact ⟨u, hu, hrows, hne, fault, hagain⟩

end View

end Sheetwise
