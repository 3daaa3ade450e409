import Sheetwise.Proofs.Areas
import Sheetwise.Proofs.Exact
import Sheetwise.Proofs.Making
import Sheetwise.Proofs.Regions
import Sheetwise.Proofs.Rows

/-!
# What a view shows

A view keeps of a sheet what lies in its area. A row that lies in the columns of the area is taken as it
is and any other is cut, which comes to the same; a row of which nothing is left is dropped, and takes
nothing with it. So the cells and the links of a view are those of the sheet that stand in the area, in
their order. A table candidate is kept if all cells of its rectangle stand in the area, a graphic or a
chart if it shares a point with the area's box; both is decided by comparing edges, which is enough
because neither a rectangle nor a box has its edges the wrong way round.
-/

namespace Sheetwise

/-- A list keeps of another the elements with a property, in their order. -/
def Keeps {α : Type} (P : α → Prop) (l kept : List α) : Prop :=
  ∃ keep : α → Bool, (∀ a ∈ l, keep a = true ↔ P a) ∧ kept = l.filter keep

theorem keeps_filter {α : Type} {P : α → Prop} {keep : α → Bool} {l : List α}
    (h : ∀ a ∈ l, keep a = true ↔ P a) : Keeps P l (l.filter keep) :=
  ⟨keep, h, rfl⟩

namespace Metrics

variable {m : Metrics ℚ} {area : PrintArea}

/-- An area after which there is a row and a column has a box. -/
theorem areaBox_eq {α : Type} [Quantity α] (m : Metrics α) (h : area.Regular) :
    m.areaBox area = .ok ⟨m.colLeft area.c1, m.rowTop area.r1, m.colLeft (area.c2 + 1),
      m.rowTop (area.r2 + 1)⟩ :=
  areaBox_eq_ok.mpr ⟨h.rows_lt, h.cols_lt, rfl⟩

theorem ordered_areaBox (hm : m.NonNegative) (h : area.Regular) {box : Box ℚ}
    (hbox : m.areaBox area = .ok box) : box.Ordered := by
  rw [areaBox_eq m h] at hbox
  obtain rfl := Except.ok.inj hbox
  exact ⟨colLeft_le hm (Nat.le_succ_of_le h.cols_le), rowTop_le hm (Nat.le_succ_of_le h.rows_le)⟩

end Metrics

namespace View

variable {α : Type} {area : PrintArea} {rows : List Row}

/-! ## Rows -/

/-- The rows in an area, cut to its columns, without those of which nothing is left. -/
def rowsIn (area : PrintArea) (rows : List Row) : List Row :=
  ((rows.filter fun row => area.containsRow row.number).map (·.cut area.c1 area.c2)).filter
    Row.isOccupied

/-- A row is seen cut to the columns of the area, whether it is cut or lies in them anyway. -/
theorem rowThrough_eq (harea : area.c1 ≤ area.c2) {row : Row} (hrow : row.Trim) :
    rowThrough area row = .ok (Option.guard Row.isOccupied (row.cut area.c1 area.c2)) := by
  by_cases hinside : row.withinColumns area.c1 area.c2 = true
  · rw [rowThrough, if_pos hinside, Row.cut_eq_self hinside hrow]
    rfl
  · rw [rowThrough, if_neg hinside, Row.restrict_eq harea]
    rfl

theorem rowsThrough_eq (harea : area.c1 ≤ area.c2) (hrows : ∀ row ∈ rows, row.Trim) :
    rowsThrough area rows = .ok (rowsIn area rows) := by
  have hseen := Checked.mapM_eq_ok_map (l := rows.filter fun row => area.containsRow row.number)
    fun row hrow => rowThrough_eq harea (hrows row (List.mem_of_mem_filter hrow))
  rw [rowsThrough, hseen]
  show Except.ok _ = Except.ok _
  rw [List.filterMap_map, rowsIn, ← List.filterMap_eq_filter (p := Row.isOccupied), List.filterMap_map]
  rfl

/--
What is seen of the rows of a sheet is what they hold in the area. Rows that are dropped hold nothing
there, so nothing is lost with them.
-/
theorem placed_rowsIn {f : Row → SortedMap Nat α}
    (hcut : ∀ row, (f (row.cut area.c1 area.c2)).entries
      = (f row).entries.filter fun e => decide (area.c1 ≤ e.1) && decide (e.1 ≤ area.c2))
    (hempty : ∀ row, row.isOccupied = false → (f row).entries = []) :
    Row.placed f (rowsIn area rows)
      = (Row.placed f rows).filter fun e => area.containsRow e.1 && area.containsCol e.2.1 := by
  induction rows with
  | nil => rfl
  | cons row rows ih =>
      have hcons : Row.placed f (row :: rows)
          = (f row).entries.map (fun e => (row.number, e)) ++ Row.placed f rows := rfl
      rw [hcons, List.filter_append, ← ih, List.filter_map]
      cases hrow : area.containsRow row.number with
      | false =>
          -- the row is not in the area, and nothing that it holds is
          have hnone : (f row).entries.filter ((fun e : Nat × Nat × α =>
              area.containsRow e.1 && area.containsCol e.2.1) ∘ fun e => (row.number, e)) = [] := by
            rw [List.filter_eq_nil_iff]
            intro e _
            simp [hrow]
          rw [hnone, rowsIn, List.filter_cons_of_neg (by simp [hrow]), ← rowsIn]
          rfl
      | true =>
          have hsome : (f row).entries.filter ((fun e : Nat × Nat × α =>
              area.containsRow e.1 && area.containsCol e.2.1) ∘ fun e => (row.number, e))
              = (f (row.cut area.c1 area.c2)).entries := by
            rw [hcut]
            refine List.filter_congr fun e _ => ?_
            simp [hrow, PrintArea.containsCol]
          rw [hsome]
          rw [rowsIn, List.filter_cons_of_pos (by exact hrow), List.map_cons]
          cases hocc : (row.cut area.c1 area.c2).isOccupied with
          | false =>
              -- the row is dropped, and there was nothing left in it
              rw [hempty _ hocc, List.filter_cons_of_neg (by simp [hocc])]
              rfl
          | true =>
              rw [List.filter_cons_of_pos hocc]
              rfl

theorem cellsOf_rowsIn : Row.cellsOf (rowsIn area rows)
    = (Row.cellsOf rows).filter fun e => area.containsRow e.1 && area.containsCol e.2.1 := by
  refine placed_rowsIn (fun row => rfl) fun row hrow => ?_
  rw [Row.isOccupied, Bool.or_eq_false_iff, Bool.not_eq_false'] at hrow
  exact List.isEmpty_iff.mp hrow.1

theorem linksOf_rowsIn : Row.linksOf (rowsIn area rows)
    = (Row.linksOf rows).filter fun e => area.containsRow e.1 && area.containsCol e.2.1 := by
  refine placed_rowsIn (fun row => row.entries_linkMap_cut _ _) fun row hrow => ?_
  rw [Row.isOccupied, Bool.or_eq_false_iff, Option.isSome_eq_false_iff, Option.isNone_iff_eq_none] at hrow
  rw [Row.linkMap, hrow.2]
  rfl

theorem number_rowsIn_sublist : ((rowsIn area rows).map Row.number).Sublist (rows.map Row.number) := by
  have hcut : ((rows.filter fun row => area.containsRow row.number).map
      (·.cut area.c1 area.c2)).map Row.number
        = (rows.filter fun row => area.containsRow row.number).map Row.number := List.map_map ..
  refine (List.filter_sublist.map Row.number).trans ?_
  rw [hcut]
  exact List.filter_sublist.map Row.number

/-! ## Candidates -/

theorem containsCandidate_iff {s : String} : containsCandidate area s = true
    ↔ ∃ b, Reference.rect? s = some b
      ∧ ∀ row col, b.contains row col = true → area.Has (row + 1) col := by
  unfold containsCandidate
  cases Reference.rect? s with
  | none => exact iff_of_false Bool.noConfusion fun ⟨_, h, _⟩ => by cases h
  | some b => simp [PrintArea.containsRect_iff]

/-! ## Views -/

theorem ofArea_eq {α : Type} [Quantity α] {name : String} {sheet : Sheet α} {box : Box α}
    (hbox : sheet.metrics.areaBox area = .ok box) (harea : area.c1 ≤ area.c2)
    (hrows : ∀ row ∈ sheet.rows, row.Trim) :
    ofArea name sheet area = .ok (through name sheet area box (rowsIn area sheet.rows)) :=
  ofArea_eq_ok.mpr ⟨box, _, hbox, rowsThrough_eq harea hrows, rfl⟩

/--
What lies in an area: the cells and the links there, in rows that hold something; the candidates whose
cells all stand there; the graphics and the charts that share a point with its box.
-/
structure Shows (name : String) (sheet : Sheet ℚ) (area : PrintArea) (box : Box ℚ) (v : View) :
    Prop where
  cells : Keeps (fun e => area.Has e.1 e.2.1) (Row.cellsOf sheet.rows) (Row.cellsOf v.rows)
  links : Keeps (fun e => area.Has e.1 e.2.1) (Row.linksOf sheet.rows) (Row.linksOf v.rows)
  cells_once : ((Row.cellsOf v.rows).map fun e => (e.1, e.2.1)).Nodup
  links_once : ((Row.linksOf v.rows).map fun e => (e.1, e.2.1)).Nodup
  numbers : (v.rows.map Row.number).Pairwise (· < ·)
  filled : ∀ row ∈ v.rows, row.Filled
  tables : Keeps (fun s => ∃ b, Reference.rect? s = some b
    ∧ ∀ row col, b.contains row col = true → area.Has (row + 1) col)
      sheet.tableCandidates v.tableCandidates
  shapes : sheet.metrics.NonNegative →
    Keeps (fun g => ∃ x y, g.box.exact.Has x y ∧ box.Has x y) sheet.shapes v.shapes
  charts : sheet.metrics.NonNegative →
    Keeps (fun c => ∃ x y, c.box.exact.Has x y ∧ box.Has x y) sheet.charts v.charts
  sheetName : v.sheetName = name
  area : v.area = area

theorem shows_through {name : String} {sheet : Sheet ℚ} {box : Box ℚ} (harea : area.Regular)
    (hnumbers : (sheet.rows.map Row.number).Pairwise (· < ·))
    (hbox : sheet.metrics.areaBox area = .ok box) :
    (through name sheet area box (rowsIn area sheet.rows)).Shows name sheet area box where
  cells := by
    rw [through, cellsOf_rowsIn]
    exact keeps_filter fun _ _ => PrintArea.contains_iff
  links := by
    rw [through, linksOf_rowsIn]
    exact keeps_filter fun _ _ => PrintArea.contains_iff
  cells_once := Row.nodup_placed _ (hnumbers.sublist number_rowsIn_sublist)
  links_once := Row.nodup_placed _ (hnumbers.sublist number_rowsIn_sublist)
  numbers := hnumbers.sublist number_rowsIn_sublist
  filled := by
    intro row hrow
    obtain ⟨hmem, hocc⟩ := List.mem_filter.mp hrow
    obtain ⟨row, _, rfl⟩ := List.mem_map.mp hmem
    exact (row.trim_cut _ _).isOccupied_iff.mp hocc
  tables := keeps_filter fun _ _ => containsCandidate_iff
  shapes := fun hm => keeps_filter fun _ _ =>
    Box.touches_iff (Box.ordered_ofSize ..) (Metrics.ordered_areaBox hm harea hbox)
  charts := fun hm => keeps_filter fun _ _ =>
    Box.touches_iff (Box.ordered_ofSize ..) (Metrics.ordered_areaBox hm harea hbox)
  sheetName := rfl
  area := rfl

/--
**A view shows exactly what lies in its area.** There is a view for every area with its corners in order
that does not end where numbering does, and in exact numbers what it keeps of a sheet is what lies in
the area.
-/
theorem build_exact (name : String) (g : Grid) (includeLinks : Bool) (sheet : Sheet ℚ)
    (hrows : sheet.rows = g.toRows includeLinks) (area : PrintArea) (harea : area.Regular)
    (options : ViewOptions) (hoptions : options.normalize = false) :
    ∃ v box, View.build name sheet area options = .ok v
      ∧ sheet.metrics.areaBox area = .ok box ∧ v.Shows name sheet area box := by
  have htrim : ∀ row ∈ sheet.rows, row.Trim := by
    rw [hrows]
    exact fun row => g.trim_of_mem_toRows includeLinks
  have hnumbers : (sheet.rows.map Row.number).Pairwise (· < ·) := by
    rw [hrows]
    exact g.pairwise_number_toRows includeLinks
  have hbox := sheet.metrics.areaBox_eq harea
  refine ⟨through name sheet area _ (rowsIn area sheet.rows), _, ?_, hbox, shows_through harea hnumbers hbox⟩
  rw [build, ofArea_eq hbox harea.cols_le htrim, hoptions]
  rfl

/-- A list of two rows with a remark beside it, and a link under it. -/
def stock : Grid where
  cells := .ofList [(⟨0, 0⟩, .text "Item"), (⟨0, 4⟩, .text "note"), (⟨1, 0⟩, .text "apple"),
    (⟨1, 1⟩, .int 3)]
  links := .ofList [(⟨1, 0⟩, "#apples"), (⟨2, 1⟩, "#top")]

/-- The list as a sheet; one shape begins where its two columns end, another one below. -/
def stockSheet : Sheet ℚ where
  rows := stock.toRows true
  shapes := [{ text := "beside", left := 96, top := 0, width := some 30, form := .shape },
    { text := "below", left := 0, top := 31, form := .shape }]
  tableCandidates := ["A1:B2", "A1:E2", "A1:B3"]
  metrics := { defaultRowHeight := 15, defaultColWidth := 48 }

/-- The area of the list: its two rows, and the columns A and B. -/
def stockArea : PrintArea := ⟨1, 0, 2, 1⟩

theorem build_exact_stock :
    stockSheet.rows = stock.toRows true ∧ stockArea.Regular ∧ stockSheet.metrics.NonNegative
      ∧ ∃ v box, View.build "Stock" stockSheet stockArea {} = .ok v
        ∧ stockSheet.metrics.areaBox stockArea = .ok box
        ∧ v.Shows "Stock" stockSheet stockArea box := by
  have harea : stockArea.Regular := ⟨by decide, by decide, by decide, by decide⟩
  have hmetrics : stockSheet.metrics.NonNegative :=
    ⟨by decide, by decide, List.forall_mem_nil _, List.forall_mem_nil _⟩
  exact ⟨rfl, harea, hmetrics,
    build_exact "Stock" stock true stockSheet rfl stockArea harea {} rfl⟩

example : (View.build "Stock" stockSheet stockArea {}).map (fun v =>
    ((Row.cellsOf v.rows).map fun e => (e.1, e.2.1, e.2.2.display), Row.linksOf v.rows,
      v.tableCandidates, v.shapes.map fun g => g.text))
    = .ok ([(1, 0, "Item"), (2, 0, "apple"), (2, 1, "3")], [(2, 0, "#apples")], ["A1:B2"],
      ["beside"]) := by
  decide +kernel

end View

end Sheetwise
