import Sheetwise.Proofs.Making
import Sheetwise.Proofs.Rows

/-!
# What is seen through any area

A print area that is read from elsewhere may have its corners in any order and may reach to the end of
what can be numbered. An area whose rows run backwards contains no row and shows none. One whose columns
run backwards shows nothing of a row either, but a row that holds something cannot be cut to them, and
then there is no view at all. Whatever is shown through an area lies in it.
-/

namespace Sheetwise

/-! ## Rows -/

namespace Row

variable {α : Type} {row row' : Row} {c1 c2 : Nat}

theorem withinColumns_iff : row.withinColumns c1 c2 = true
    ↔ (∀ e ∈ row.cells.entries, c1 ≤ e.1 ∧ e.1 ≤ c2)
      ∧ ∀ m ∈ row.links, ∀ e ∈ m.entries, c1 ≤ e.1 ∧ e.1 ≤ c2 := by
  have hkeys {β : Type} (m : SortedMap Nat β) :
      m.keys.all (fun c => decide (c1 ≤ c) && decide (c ≤ c2)) = true
        ↔ ∀ e ∈ m.entries, c1 ≤ e.1 ∧ e.1 ≤ c2 := by
    simp [SortedMap.keys]
  unfold withinColumns
  rw [Bool.and_eq_true, hkeys]
  cases hlinks : row.links with
  | none => simp
  | some m => simp [hkeys]

theorem withinColumns_cut (row : Row) (c1 c2 : Nat) :
    (row.cut c1 c2).withinColumns c1 c2 = true := by
  have hfilter {β : Type} (m : SortedMap Nat β) : ∀ e ∈ (m.filter fun c _ =>
      decide (c1 ≤ c) && decide (c ≤ c2)).entries, c1 ≤ e.1 ∧ e.1 ≤ c2 := by
    intro e he
    simpa using (List.mem_filter.mp he).2
  rw [withinColumns_iff]
  refine ⟨hfilter row.cells, ?_⟩
  intro m hm
  obtain ⟨hsome, -⟩ := Option.filter_eq_some_iff.mp hm
  obtain ⟨links, -, rfl⟩ := Option.map_eq_some_iff.mp hsome
  exact hfilter links

/-- Columns that run backwards have no row within them but one that holds nothing. -/
theorem not_filled_of_withinColumns (h : row.withinColumns c1 c2 = true) (hback : c2 < c1) :
    ¬ row.Filled := by
  obtain ⟨hcells, hlinks⟩ := withinColumns_iff.mp h
  rintro (⟨e, he⟩ | ⟨e, he⟩)
  · have := hcells e he
    omega
  · unfold linkMap at he
    cases hrow : row.links with
    | none =>
        rw [hrow] at he
        exact List.not_mem_nil he
    | some m =>
        rw [hrow] at he
        have := hlinks m hrow e he
        omega

/-- A row that holds nothing is within any columns. -/
theorem withinColumns_of_not_filled (h : ¬ row.Filled) : row.withinColumns c1 c2 = true := by
  rw [withinColumns_iff]
  constructor
  · intro e he
    exact absurd (Or.inl ⟨e, he⟩) h
  · intro m hm e he
    refine absurd (Or.inr ⟨e, ?_⟩) h
    rw [linkMap, hm]
    exact he

theorem columns_eq_ok {m m' : SortedMap Nat α} : m.range c1 c2 = .ok m'
    ↔ (c1 ≤ c2 ∨ m.isEmpty = true)
      ∧ (m.filter fun c _ => decide (c1 ≤ c) && decide (c ≤ c2)) = m' := by
  rw [SortedMap.range_eq_ok_iff, Nat.not_lt, SortedMap.between_nat]

theorem eq_cut_of_restrict (h : row.restrict c1 c2 = .ok row') : row' = row.cut c1 c2 := by
  obtain ⟨cells, hcells, h⟩ := Checked.bind_eq_ok.mp h
  obtain ⟨links, hlinks, h⟩ := Checked.bind_eq_ok.mp h
  obtain ⟨-, rfl⟩ := columns_eq_ok.mp hcells
  obtain rfl := Except.ok.inj h
  cases hrow : row.links with
  | none =>
      rw [hrow] at hlinks
      cases hlinks
      rw [cut, hrow]
      rfl
  | some m =>
      rw [hrow] at hlinks
      obtain ⟨m', hm', h⟩ := Checked.map_eq_ok.mp hlinks
      obtain ⟨-, rfl⟩ := columns_eq_ok.mp hm'
      cases h
      rw [cut, hrow]
      rfl

/-- A row that holds something cannot be cut to columns that run backwards. -/
theorem restrict_of_filled (h : row.Filled) (hback : c2 < c1) : row.restrict c1 c2 ≠ .ok row' := by
  intro hcut
  obtain ⟨cells, hcells, h'⟩ := Checked.bind_eq_ok.mp hcut
  obtain ⟨links, hlinks, -⟩ := Checked.bind_eq_ok.mp h'
  have hnone {β : Type} {m m' : SortedMap Nat β} (hm : m.range c1 c2 = .ok m') :
      ∀ e, e ∉ m.entries := by
    intro e he
    obtain ⟨hle | hempty, -⟩ := columns_eq_ok.mp hm
    · omega
    · rw [SortedMap.isEmpty, List.isEmpty_iff] at hempty
      rw [hempty] at he
      exact List.not_mem_nil he
  obtain ⟨e, he⟩ | ⟨e, he⟩ := h
  · exact hnone hcells e he
  · unfold linkMap at he
    cases hrow : row.links with
    | none =>
        rw [hrow] at he
        exact List.not_mem_nil he
    | some m =>
        rw [hrow] at he hlinks
        obtain ⟨m', hm', -⟩ := Checked.map_eq_ok.mp hlinks
        exact hnone hm' e he

end Row

namespace View

variable {area : PrintArea} {row : Row} {rows seen : List Row}

/-- A row is seen unless it holds something and the columns of the area run backwards. -/
theorem exists_rowThrough_iff :
    (∃ r, rowThrough area row = .ok r) ↔ area.c1 ≤ area.c2 ∨ ¬ row.Filled := by
  unfold rowThrough
  by_cases hwithin : row.withinColumns area.c1 area.c2 = true
  · rw [if_pos hwithin]
    refine iff_of_true ⟨_, rfl⟩ ?_
    by_cases hle : area.c1 ≤ area.c2
    · exact Or.inl hle
    · exact Or.inr (Row.not_filled_of_withinColumns hwithin (by omega))
  · rw [if_neg hwithin]
    constructor
    · intro h
      obtain ⟨r, hr⟩ := h
      obtain ⟨cut, hcut, -⟩ := Checked.bind_eq_ok.mp hr
      by_cases hle : area.c1 ≤ area.c2
      · exact Or.inl hle
      · exact Or.inr fun hfilled => Row.restrict_of_filled hfilled (by omega) hcut
    · rintro (hle | hbare)
      · rw [Row.restrict_eq hle]
        exact ⟨_, rfl⟩
      · exact absurd (Row.withinColumns_of_not_filled hbare) hwithin

/-- What is seen of a row lies in the columns of the area, in a row of the same number. -/
theorem of_rowThrough {r : Row} (h : rowThrough area row = .ok (some r)) :
    r.number = row.number ∧ r.withinColumns area.c1 area.c2 = true := by
  have hsome {r' : Row} (hr' : (if r'.isOccupied then some r' else none) = some r) : r' = r := by
    by_cases hocc : r'.isOccupied = true
    · rw [if_pos hocc] at hr'
      exact Option.some.inj hr'
    · rw [if_neg hocc] at hr'
      cases hr'
  unfold rowThrough at h
  by_cases hwithin : row.withinColumns area.c1 area.c2 = true
  · rw [if_pos hwithin] at h
    obtain rfl := hsome (Except.ok.inj h)
    exact ⟨rfl, hwithin⟩
  · rw [if_neg hwithin] at h
    obtain ⟨cut, hcut, h⟩ := Checked.bind_eq_ok.mp h
    obtain rfl := hsome (Except.ok.inj h)
    obtain rfl := Row.eq_cut_of_restrict hcut
    exact ⟨rfl, Row.withinColumns_cut _ _ _⟩

theorem exists_rowsThrough_iff : (∃ seen, rowsThrough area rows = .ok seen)
    ↔ ∀ row ∈ rows, area.containsRow row.number = true → area.c1 ≤ area.c2 ∨ ¬ row.Filled := by
  have hrows : (∃ seen, rowsThrough area rows = .ok seen) ↔ ∃ seen,
      (rows.filter fun row => area.containsRow row.number).mapM (rowThrough area) = .ok seen := by
    simp only [rowsThrough, Checked.bind_eq_ok]
    constructor
    · rintro ⟨_, seen, hseen, -⟩
      exact ⟨seen, hseen⟩
    · rintro ⟨seen, hseen⟩
      exact ⟨_, seen, hseen, rfl⟩
  rw [hrows, Checked.exists_mapM_eq_ok_iff]
  simp only [List.mem_filter, exists_rowThrough_iff, and_imp]

theorem of_mem_rowsThrough (h : rowsThrough area rows = .ok seen) (hrow : row ∈ seen) :
    area.containsRow row.number = true ∧ row.withinColumns area.c1 area.c2 = true := by
  obtain ⟨given, hgiven, h⟩ := Checked.bind_eq_ok.mp h
  obtain rfl := Except.ok.inj h
  obtain ⟨r, hr, hid⟩ := List.mem_filterMap.mp hrow
  obtain rfl : r = some row := hid
  obtain ⟨row', hrow', hthrough⟩ := Checked.exists_of_mem_mapM hgiven hr
  obtain ⟨hnumber, hwithin⟩ := of_rowThrough hthrough
  rw [hnumber]
  exact ⟨(List.mem_filter.mp hrow').2, hwithin⟩

/-! ## Views -/

/-- The rows and the table candidates of a view lie in its area. -/
structure InArea (v : View) : Prop where
  numbers : ∀ row ∈ v.rows, v.area.containsRow row.number = true
  columns : ∀ row ∈ v.rows, row.withinColumns v.area.c1 v.area.c2 = true
  tables : ∀ s ∈ v.tableCandidates, containsCandidate v.area s = true

theorem inArea_of_ofArea {α : Type} [Quantity α] {name : String} {sheet : Sheet α} {v : View}
    (h : ofArea name sheet area = .ok v) : v.InArea := by
  obtain ⟨box, rows, -, hrows, rfl⟩ := ofArea_eq_ok.mp h
  refine ⟨fun row hrow => ?_, fun row hrow => ?_, fun s hs => ?_⟩
  · exact (of_mem_rowsThrough hrows hrow).1
  · exact (of_mem_rowsThrough hrows hrow).2
  · exact (List.mem_filter.mp hs).2

/-- What an area must be like for some rows to be seen through it. -/
structure SeesThrough (area : PrintArea) (rows : List Row) : Prop where
  /-- The row and the column after the area can be numbered. -/
  rows_lt : area.r2 < Word.max
  cols_lt : area.c2 < Word.max
  /-- The columns run forwards, unless there is nothing in the rows of the area. -/
  forwards : ∀ row ∈ rows, area.containsRow row.number = true → area.c1 ≤ area.c2 ∨ ¬ row.Filled

theorem exists_ofArea_iff {α : Type} [Quantity α] {name : String} {sheet : Sheet α} :
    (∃ v, ofArea name sheet area = .ok v) ↔ SeesThrough area sheet.rows := by
  constructor
  · intro h
    obtain ⟨v, hv⟩ := h
    obtain ⟨box, rows, hbox, hrows, -⟩ := ofArea_eq_ok.mp hv
    obtain ⟨hr, hc, -⟩ := Metrics.areaBox_eq_ok.mp hbox
    exact ⟨hr, hc, exists_rowsThrough_iff.mp ⟨rows, hrows⟩⟩
  · intro h
    obtain ⟨rows, hrows⟩ := exists_rowsThrough_iff.mpr h.forwards
    have hbox := (Metrics.areaBox_eq_ok (m := sheet.metrics)).mpr ⟨h.rows_lt, h.cols_lt, rfl⟩
    exact ⟨_, ofArea_eq_ok.mpr ⟨_, rows, hbox, hrows, rfl⟩⟩

end View

end Sheetwise
