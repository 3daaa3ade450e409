import Mathlib.Data.List.Basic
import Sheetwise.Output
import Sheetwise.Proofs.Making

/-!
# Views without sizes

What is handed out may be without the sizes of what is drawn, and views are built of what is handed
out. Without its size, a drawing is in a view only if its corner lies in the area: one that reaches into
the area from outside is no longer found there. So leaving out sizes changes what views contain, and it
leaves them as they are just when each drawing touches each area with its corner if it touches it at all.
-/

namespace Sheetwise

/-! ## Drawings without their sizes -/

section Stripping

variable {δ : Type} {strip : δ → δ} {move : δ → Checked δ} {l l' m : List δ}

/-- Two lists of drawings are the same but for what is stripped off. -/
def SameUpTo (strip : δ → δ) (l l' : List δ) : Prop := l.map strip = l'.map strip

/-- If as many pass a test as when all pass or none does, then all pass or none does. -/
theorem eq_of_length_filter_eq {p : δ → Bool} {always : Bool}
    (h : (l.filter p).length = (l.filter fun _ => always).length) {a : δ} (ha : a ∈ l) :
    p a = always := by
  cases always with
  | false =>
      rw [List.filter_false, List.length_nil, List.length_eq_zero_iff, List.filter_eq_nil_iff] at h
      exact Bool.eq_false_iff.mpr (h a ha)
  | true =>
      rw [List.filter_true, List.length_filter_eq_length_iff] at h
      exact h a ha

/--
Stripping before a test and stripping after it come to the same only if the test never notices. One
drawing cannot make up for another, because those that look alike when stripped are all kept or all lost.
-/
theorem map_filter_eq_iff {p q : δ → Bool} :
    (l.filter p).map strip = (l.map strip).filter q ↔ ∀ a ∈ l, q (strip a) = p a := by
  rw [List.filter_map]
  constructor
  · intro h a ha
    classical
    have hmem : a ∈ l.filter fun x => decide (strip x = strip a) :=
      List.mem_filter.mpr ⟨ha, decide_eq_true rfl⟩
    refine (eq_of_length_filter_eq ?_ hmem).symm
    have hlike : (l.filter fun x => decide (strip x = strip a)).filter (q ∘ strip)
        = (l.filter fun x => decide (strip x = strip a)).filter fun _ => q (strip a) := by
      refine List.filter_congr fun x hx => ?_
      have hlook := of_decide_eq_true (List.mem_filter.mp hx).2
      rw [Function.comp_apply, hlook]
    -- of those that look like this one, as many are kept before stripping as after it
    have hcount := congrArg (fun m => (m.filter fun b => decide (b = strip a)).length) h
    rw [List.filter_map, List.filter_map, List.length_map, List.length_map] at hcount
    rw [← hlike, List.filter_comm, List.filter_comm (q ∘ strip)]
    exact hcount
  · intro h
    exact congrArg (List.map strip) (List.filter_congr fun a ha => (h a ha).symm)

/-- If all drawings or none are stripped, the test keeps the same ones only if it never notices. -/
theorem sameUpTo_stripped_iff (hstrip : ∀ a, strip (strip a) = strip a) (p : δ → Bool)
    (stripped : Bool) (l : List δ) :
    SameUpTo strip (l.filter p) ((if stripped then l.map strip else l).filter p)
      ↔ (stripped = true → ∀ a ∈ l, p (strip a) = p a) := by
  cases stripped with
  | false => exact iff_of_true rfl Bool.noConfusion
  | true =>
      have hagain : ((l.map strip).filter p).map strip = (l.map strip).filter p := by
        rw [List.filter_map, List.map_map]
        exact List.map_congr_left fun a _ => hstrip a
      rw [if_pos rfl, SameUpTo, hagain, map_filter_eq_iff]
      exact ⟨fun h _ => h, fun h => h rfl⟩

/-- Moving a drawing takes no notice of what is stripped off, and can be undone. -/
structure Moves (strip : δ → δ) (move : δ → Checked δ) : Prop where
  move_strip : ∀ a, move (strip a) = strip <$> move a
  injective : ∀ {a b c}, move a = .ok c → move b = .ok c → a = b

theorem Moves.mapM_strip (h : Moves strip move) (l : List δ) :
    (l.map strip).mapM move = List.map strip <$> l.mapM move := by
  induction l with
  | nil => rfl
  | cons a l ih =>
      rw [List.map_cons, List.mapM_cons, List.mapM_cons, ih, h.move_strip]
      cases move a with
      | error fault => rfl
      | ok b =>
          cases l.mapM move with
          | error fault => rfl
          | ok bs => rfl

theorem Moves.mapM_injective (h : Moves strip move) (hl : l.mapM move = .ok m)
    (hl' : l'.mapM move = .ok m) : l = l' := by
  rw [Checked.mapM_eq_ok] at hl hl'
  induction hl generalizing l' with
  | nil => exact (List.forall₂_nil_right_iff.mp hl').symm
  | cons hhead _ ih =>
      cases hl' with
      | cons hhead' htail' => rw [h.injective hhead hhead', ih htail']

/-- Drawings that are the same when stripped can be moved together, and stay so or become so. -/
theorem Moves.mapM_iff (h : Moves strip move) (hm : l.mapM move = .ok m) (l' : List δ) :
    (∃ m', l'.mapM move = .ok m' ∧ SameUpTo strip m m') ↔ SameUpTo strip l l' := by
  have hmoved : (l.map strip).mapM move = .ok (m.map strip) := by
    rw [h.mapM_strip, hm]
    rfl
  constructor
  · rintro ⟨m', hm', hsame⟩
    refine h.mapM_injective hmoved ?_
    rw [h.mapM_strip, hm', hsame]
    rfl
  · intro hsame
    rw [hsame, h.mapM_strip, Checked.map_eq_ok] at hmoved
    obtain ⟨m', hm', heq⟩ := hmoved
    exact ⟨m', hm', heq.symm⟩

end Stripping

/-- What is stripped off has nothing to do with the place. -/
theorem Standing.moves {δ : Type} (s : Standing δ) (strip : δ → δ)
    (hleft : ∀ a, s.left (strip a) = s.left a) (htop : ∀ a, s.top (strip a) = s.top a)
    (hput : ∀ a x y, s.put (strip a) x y = strip (s.put a x y)) (dx dy : Int) :
    Moves strip fun a => s.rebase a dx dy where
  move_strip a := by
    unfold rebase
    rw [hleft, htop]
    cases Position.sub (s.left a) dx with
    | error fault => rfl
    | ok left =>
        cases Position.sub (s.top a) dy with
        | error fault => rfl
        | ok top => exact congrArg Except.ok (hput a left top)
  injective := s.rebase_injective

theorem Graphic.moves (dx dy : Int) : Moves withoutSize fun g => g.rebase dx dy := by
  simp only [Graphic.rebase_eq]
  exact standing.moves withoutSize (fun _ => rfl) (fun _ => rfl) (fun _ _ _ => rfl) dx dy

theorem Chart.moves (dx dy : Int) : Moves withoutSize fun c => c.rebase dx dy := by
  simp only [Chart.rebase_eq]
  exact standing.moves withoutSize (fun _ => rfl) (fun _ => rfl) (fun _ _ _ => rfl) dx dy

theorem Graphic.withoutSize_withoutSize (g : Graphic) : g.withoutSize.withoutSize = g.withoutSize :=
  rfl

theorem Chart.withoutSize_withoutSize (c : Chart) : c.withoutSize.withoutSize = c.withoutSize := rfl

/-! ## Views -/

/-- Two views are of one area of one sheet, and show the same drawings but for their sizes. -/
structure View.SameDrawings (v v' : View) : Prop where
  sheetName : v.sheetName = v'.sheetName
  area : v.area = v'.area
  shapes : SameUpTo Graphic.withoutSize v.shapes v'.shapes
  charts : SameUpTo Chart.withoutSize v.charts v'.charts

/-- A view of what is handed out differs from one of all that there is in what it lacks. -/
structure View.Lacks (v' v : View) : Prop where
  sheetName : v'.sheetName = v.sheetName
  area : v'.area = v.area
  originX : v'.originX = v.originX
  originY : v'.originY = v.originY
  rows : v'.rows = v.rows ∨ v'.rows = []
  tableCandidates : v'.tableCandidates = v.tableCandidates ∨ v'.tableCandidates = []

theorem mapM_lacking {α β : Type} {f : α → Checked β} {l l' : List α} {ys : List β}
    (hl : l.mapM f = .ok ys) (h : l' = l ∨ l' = []) : ∃ ys', l'.mapM f = .ok ys' := by
  rcases h with rfl | rfl
  · exact ⟨ys, hl⟩
  · exact ⟨[], rfl⟩

/-- Views of one area move alike, so that they show the same drawings before if they do after. -/
theorem View.Lacks.normalize_iff {v v' u : View} (h : v'.Lacks v) (hu : v.normalize = .ok u) :
    (∃ u', v'.normalize = .ok u' ∧ u.SameDrawings u') ↔ v.SameDrawings v' := by
  obtain ⟨hrows, htables, hshapes, hcharts, hname, harea, -, -⟩ := normalize_eq_ok.mp hu
  have hshapes_iff := (Graphic.moves v.originX v.originY).mapM_iff hshapes v'.shapes
  have hcharts_iff := (Chart.moves v.originX v.originY).mapM_iff hcharts v'.charts
  constructor
  · rintro ⟨u', hu', hsame⟩
    obtain ⟨-, -, hshapes', hcharts', -⟩ := normalize_eq_ok.mp hu'
    rw [h.originX, h.originY] at hshapes' hcharts'
    exact ⟨h.sheetName.symm, h.area.symm, hshapes_iff.mp ⟨_, hshapes', hsame.shapes⟩,
      hcharts_iff.mp ⟨_, hcharts', hsame.charts⟩⟩
  · intro hsame
    obtain ⟨rows, hrows'⟩ := mapM_lacking hrows h.rows
    obtain ⟨tables, htables'⟩ := mapM_lacking htables h.tableCandidates
    obtain ⟨shapes, hshapes', hsameShapes⟩ := hshapes_iff.mpr hsame.shapes
    obtain ⟨charts, hcharts', hsameCharts⟩ := hcharts_iff.mpr hsame.charts
    refine ⟨⟨v'.sheetName, v'.area, shapes, charts, rows, tables, 0, 0⟩, normalize_eq_ok.mpr ?_, ?_⟩
    · rw [h.area, h.originX, h.originY]
      exact ⟨hrows', htables', hshapes', hcharts', rfl, rfl, rfl, rfl⟩
    · exact ⟨hname.trans h.sheetName.symm, harea.trans h.area.symm, hsameShapes, hsameCharts⟩

/-! ## What is handed out -/

namespace OutputFilter

/-- Whether the sizes of shapes are left out. -/
def dropsShapeSize (f : OutputFilter) (mode : Mode) : Bool :=
  !f.includeShapeSize.getD (mode = .verbose)

/-- Whether the sizes of charts are left out. -/
def dropsChartSize (f : OutputFilter) (mode : Mode) : Bool :=
  !f.includeChartSize.getD (mode = .verbose)

/-- All that is drawn and all print areas are handed out. -/
structure HandsOutDrawings (f : OutputFilter) (mode : Mode) : Prop where
  shapes : f.includeShapes = true
  charts : f.includeCharts = true
  printAreas : f.includePrintAreas.getD (mode ≠ .light) = true

/-- What loses its size touches an area with its corner if and only if it touches it with its box. -/
def KeepsTouch {α : Type} [Quantity α] (f : OutputFilter) (mode : Mode) (s : Sheet α)
    (area : PrintArea) : Prop :=
  ∀ box, s.metrics.areaBox area = .ok box →
    (f.dropsShapeSize mode = true →
        ∀ g ∈ s.shapes, g.withoutSize.box.touches box = g.box.touches box)
      ∧ (f.dropsChartSize mode = true →
        ∀ c ∈ s.charts, c.withoutSize.box.touches box = c.box.touches box)

variable {α : Type} {f : OutputFilter} {mode : Mode}

theorem shapes_sheet (h : f.HandsOutDrawings mode) (s : Sheet α) : (f.sheet mode s).shapes
    = if f.dropsShapeSize mode then s.shapes.map Graphic.withoutSize else s.shapes := by
  show (if !f.includeShapes then [] else if f.includeShapeSize.getD (mode = .verbose) then s.shapes
    else s.shapes.map Graphic.withoutSize) = _
  rw [h.shapes, dropsShapeSize]
  cases f.includeShapeSize.getD (mode = .verbose) <;> rfl

theorem charts_sheet (h : f.HandsOutDrawings mode) (s : Sheet α) : (f.sheet mode s).charts
    = if f.dropsChartSize mode then s.charts.map Chart.withoutSize else s.charts := by
  show (if !f.includeCharts then [] else if f.includeChartSize.getD (mode = .verbose) then s.charts
    else s.charts.map Chart.withoutSize) = _
  rw [h.charts, dropsChartSize]
  cases f.includeChartSize.getD (mode = .verbose) <;> rfl

theorem rows_sheet (f : OutputFilter) (mode : Mode) (s : Sheet α) :
    (f.sheet mode s).rows = s.rows ∨ (f.sheet mode s).rows = [] := by
  show (if f.includeRows then s.rows else []) = _ ∨ (if f.includeRows then s.rows else []) = []
  cases f.includeRows with
  | false => exact Or.inr rfl
  | true => exact Or.inl rfl

theorem tableCandidates_sheet (f : OutputFilter) (mode : Mode) (s : Sheet α) :
    (f.sheet mode s).tableCandidates = s.tableCandidates ∨ (f.sheet mode s).tableCandidates = [] := by
  show (if f.includeTables then s.tableCandidates else []) = _
    ∨ (if f.includeTables then s.tableCandidates else []) = []
  cases f.includeTables with
  | false => exact Or.inr rfl
  | true => exact Or.inl rfl

theorem areas_sheet (h : f.HandsOutDrawings mode) (s : Sheet α) (options : ViewOptions) :
    View.areas (f.sheet mode s) options = View.areas s options := by
  unfold View.areas
  rw [OutputFilter.sheet, h.printAreas]
  rfl

end OutputFilter

/-! ## Views of what is handed out -/

variable {α : Type} [Quantity α] {f : OutputFilter} {mode : Mode} {s : Sheet α} {area : PrintArea}
  {name : String}

namespace View

/--
Where a sheet has a view, so has what is handed out of it. Nothing but rows and candidates may be missing
in it, and its drawings are the same where the area is touched alike with and without sizes.
-/
theorem ofArea_sheet {v : View} (h : f.HandsOutDrawings mode) (hv : ofArea name s area = .ok v) :
    ∃ v', ofArea name (f.sheet mode s) area = .ok v' ∧ v'.Lacks v
      ∧ (v.SameDrawings v' ↔ f.KeepsTouch mode s area) := by
  obtain ⟨box, rows, hbox, hrows, rfl⟩ := ofArea_eq_ok.mp hv
  obtain ⟨rows', hrows', hlackRows⟩ : ∃ rows', rowsThrough area (f.sheet mode s).rows = .ok rows'
      ∧ (rows' = rows ∨ rows' = []) := by
    rcases f.rows_sheet mode s with hsame | hnone
    · exact ⟨rows, hsame ▸ hrows, Or.inl rfl⟩
    · exact ⟨[], by rw [hnone]; rfl, Or.inr rfl⟩
  have hlackTables : (f.sheet mode s).tableCandidates.filter (containsCandidate area)
        = s.tableCandidates.filter (containsCandidate area)
      ∨ (f.sheet mode s).tableCandidates.filter (containsCandidate area) = [] := by
    rcases f.tableCandidates_sheet mode s with hsame | hnone
    · exact Or.inl (congrArg _ hsame)
    · exact Or.inr (by rw [hnone]; rfl)
  have hshapes : SameUpTo Graphic.withoutSize (s.shapes.filter fun g => g.box.touches box)
        ((f.sheet mode s).shapes.filter fun g => g.box.touches box)
      ↔ (f.dropsShapeSize mode = true →
        ∀ g ∈ s.shapes, g.withoutSize.box.touches box = g.box.touches box) := by
    rw [OutputFilter.shapes_sheet h]
    exact sameUpTo_stripped_iff Graphic.withoutSize_withoutSize _ _ _
  have hcharts : SameUpTo Chart.withoutSize (s.charts.filter fun c => c.box.touches box)
        ((f.sheet mode s).charts.filter fun c => c.box.touches box)
      ↔ (f.dropsChartSize mode = true →
        ∀ c ∈ s.charts, c.withoutSize.box.touches box = c.box.touches box) := by
    rw [OutputFilter.charts_sheet h]
    exact sameUpTo_stripped_iff Chart.withoutSize_withoutSize _ _ _
  refine ⟨_, ofArea_eq_ok.mpr ⟨box, rows', hbox, hrows', rfl⟩,
    ⟨rfl, rfl, rfl, rfl, hlackRows, hlackTables⟩, ?_⟩
  constructor
  · intro hsame box' hbox'
    rw [hbox] at hbox'
    obtain rfl := Except.ok.inj hbox'
    exact ⟨hshapes.mp hsame.shapes, hcharts.mp hsame.charts⟩
  · intro hkeeps
    obtain ⟨hkeepsShapes, hkeepsCharts⟩ := hkeeps box hbox
    exact ⟨rfl, rfl, hshapes.mpr hkeepsShapes, hcharts.mpr hkeepsCharts⟩

theorem build_sheet_iff {options : ViewOptions} {v : View} (h : f.HandsOutDrawings mode)
    (hv : build name s area options = .ok v) :
    (∃ v', build name (f.sheet mode s) area options = .ok v' ∧ v.SameDrawings v')
      ↔ f.KeepsTouch mode s area := by
  -- the views before they are moved, if they are
  obtain ⟨v₀, hv₀, hv⟩ := Checked.bind_eq_ok.mp hv
  obtain ⟨v₀', hv₀', hlacks, hiff⟩ := ofArea_sheet h hv₀
  have hbuild : build name (f.sheet mode s) area options
      = if options.normalize then v₀'.normalize else .ok v₀' := by
    rw [build, hv₀']
    rfl
  rw [hbuild, ← hiff]
  cases hnormalize : options.normalize with
  | true =>
      rw [hnormalize] at hv
      exact hlacks.normalize_iff hv
  | false =>
      rw [hnormalize] at hv
      cases hv
      constructor
      · rintro ⟨v', heq, hsame⟩
        cases heq
        exact hsame
      · exact fun hsame => ⟨v₀', rfl, hsame⟩

end View

namespace Workbook

/-- The sheets with the areas that they are shown through, one after the other. -/
def shown (w : Workbook α) (options : ViewOptions) : List ((String × Sheet α) × PrintArea) :=
  w.sheets.toList.flatMap fun e => (View.areas e.2 options).map (Prod.mk e)

theorem views_eq (w : Workbook α) (options : ViewOptions) :
    w.views options = (w.shown options).mapM fun p => View.build p.1.1 p.1.2 p.2 options :=
  Checked.mapM_mapM_flatten w.sheets.toList

omit [Quantity α] in
theorem shown_workbook (h : f.HandsOutDrawings mode) (w : Workbook α) (options : ViewOptions) :
    (f.workbook mode w).shown options
      = (w.shown options).map fun p => ((p.1.1, f.sheet mode p.1.2), p.2) := by
  show ((w.sheets.entries.map fun e => (e.1, f.sheet mode e.2)).flatMap fun e =>
    (View.areas e.2 options).map (Prod.mk e)) = _
  rw [List.flatMap_map, shown, List.map_flatMap]
  refine List.flatMap_congr fun e _ => ?_
  rw [OutputFilter.areas_sheet h, List.map_map]
  rfl

end Workbook

/--
**Leaving out sizes changes what views show exactly where a drawing touches an area with its box but not
with its corner.** Where that is nowhere, what is handed out has the same views but for sizes; and if it
has the same views, that is nowhere.
-/
theorem OutputFilter.views_workbook_iff (f : OutputFilter) (o : Options) (w : Workbook α)
    (h : f.HandsOutDrawings o.mode) {vs : List View} (hvs : w.views (f.viewOptions o) = .ok vs) :
    (∃ vs', (f.workbook o.mode w).views (f.viewOptions o) = .ok vs'
        ∧ List.Forall₂ View.SameDrawings vs vs')
      ↔ ∀ e ∈ w.sheets.toList, ∀ area ∈ View.areas e.2 (f.viewOptions o),
        f.KeepsTouch o.mode e.2 area := by
  have hall : (∀ e ∈ w.sheets.toList, ∀ area ∈ View.areas e.2 (f.viewOptions o),
        f.KeepsTouch o.mode e.2 area)
      ↔ ∀ p ∈ w.shown (f.viewOptions o), f.KeepsTouch o.mode p.1.2 p.2 := by
    simp only [Workbook.shown, List.forall_mem_flatMap, List.forall_mem_map]
  rw [Workbook.views_eq] at hvs
  rw [hall, Workbook.views_eq, Workbook.shown_workbook h, List.mapM_map]
  exact Checked.mapM_related_iff hvs fun p _ v hv => View.build_sheet_iff h hv

/-- One shape, a hundred wide, on a sheet whose print area is its second column. -/
def barFrom (left : Int) : Workbook where
  bookName := ""
  sheets := .ofList [("S", {
    shapes := [{ text := "bar", left, top := 0, width := some 100, form := .shape }]
    printAreas := [⟨1, 1, 1, 1⟩]
    metrics := .standard })]

theorem views_workbook_iff_barFrom_fifty :
    ({} : OutputFilter).HandsOutDrawings ({} : Options).mode
      ∧ ∃ vs, (barFrom 50).views (({} : OutputFilter).viewOptions {}) = .ok vs
        ∧ ((∃ vs', (({} : OutputFilter).workbook ({} : Options).mode (barFrom 50)).views
              (({} : OutputFilter).viewOptions {}) = .ok vs'
            ∧ List.Forall₂ View.SameDrawings vs vs')
          ↔ ∀ e ∈ (barFrom 50).sheets.toList,
            ∀ area ∈ View.areas e.2 (({} : OutputFilter).viewOptions {}),
              ({} : OutputFilter).KeepsTouch ({} : Options).mode e.2 area) := by
  have hall : ({} : OutputFilter).HandsOutDrawings ({} : Options).mode :=
    ⟨rfl, rfl, by decide⟩
  have hviews : ((barFrom 50).views (({} : OutputFilter).viewOptions {})).isOk = true := by
    decide +kernel
  cases hvs : (barFrom 50).views (({} : OutputFilter).viewOptions {}) with
  | error fault =>
      rw [hvs] at hviews
      cases hviews
  | ok vs => exact ⟨hall, vs, rfl, OutputFilter.views_workbook_iff {} {} (barFrom 50) hall hvs⟩

namespace View

/-- The texts of the shapes in each of some views. -/
def shapeTexts (vs : List View) : List (List String) :=
  vs.map fun v => v.shapes.map fun g => g.text

theorem shapeTexts_eq {vs vs' : List View} (h : List.Forall₂ SameDrawings vs vs') :
    shapeTexts vs = shapeTexts vs' := by
  induction h with
  | nil => rfl
  | cons hsame _ ih =>
      have htexts := congrArg (List.map fun g : Graphic => g.text) hsame.shapes
      rw [List.map_map, List.map_map] at htexts
      exact congrArg₂ List.cons htexts ih

end View

/--
**A shape that reaches into an area from the left is lost**: it is in the view of the sheet, and it is not
in the view of what is handed out in standard mode, which is all but the sizes.
-/
theorem bar_lost_without_size :
    ({} : OutputFilter).HandsOutDrawings .standard
      ∧ ((barFrom 10).views {}).map View.shapeTexts = .ok [["bar"]]
      ∧ ((({} : OutputFilter).workbook .standard (barFrom 10)).views {}).map View.shapeTexts = .ok [[]]
      ∧ ¬ ∃ vs vs', (barFrom 10).views {} = .ok vs
        ∧ (({} : OutputFilter).workbook .standard (barFrom 10)).views {} = .ok vs'
        ∧ List.Forall₂ View.SameDrawings vs vs' := by
  have hthere : ((barFrom 10).views {}).map View.shapeTexts = .ok [["bar"]] := by decide +kernel
  have hlost : ((({} : OutputFilter).workbook .standard (barFrom 10)).views {}).map View.shapeTexts
      = .ok [[]] := by
    decide +kernel
  refine ⟨⟨rfl, rfl, by decide⟩, hthere, hlost, ?_⟩
  rintro ⟨vs, vs', hvs, hvs', hsame⟩
  rw [hvs] at hthere
  rw [hvs'] at hlost
  have htexts := View.shapeTexts_eq hsame
  rw [Except.ok.inj hthere, Except.ok.inj hlost] at htexts
  cases htexts

end Sheetwise
