import Sheetwise.Proofs.Edges
import Sheetwise.Proofs.Numbers

/-!
# The sizes that a part gives

The sizes of a sheet come from three kinds of elements, in any number and order; no other event touches
them, and neither do the links and the tables. So the numbers under which heights and widths are kept are
those that the elements name.

Widths are given to stretches of columns, and a stretch is cut where the sheet ends. A height is given to
one row, and its number is taken as it is. A row that is not on the sheet, or that is numbered zero, has a
height then, and the first row begins where row zero ends.
-/

namespace Sheetwise

/-! ## Edges in doubles -/

namespace Binary64

open Float.Model (UnpackedFloat)

/-- Zero times a number is a zero, and zero times anything else is undefined. -/
theorem unpack_zero_mul (x : Float) : (0 * x : Float).toModel.unpack
    = if isFinite x then .zero (signOf (bits x)) else .notANumber := by
  have hmul : (0 * x : Float).toModel.unpack
      = UnpackedFloat.unpack .binary64 (UnpackedFloat.pack .binary64
        (.mul .binary64 (0 : Float).toModel.unpack x.toModel.unpack)) := rfl
  rw [hmul, unpack_zero]
  have hmeans := means_bits x
  generalize x.toModel.unpack = u at hmeans
  cases hmeans with
  | notANumber h =>
      rw [if_neg (by rw [isFinite_iff]; omega)]
      exact UnpackedFloat.unpack_packedNaN
  | infinity h =>
      rw [if_neg (by rw [isFinite_iff]; omega)]
      exact UnpackedFloat.unpack_packedNaN
  | zero h =>
      rw [if_pos (by rw [isFinite_iff, h]; decide)]
      cases signOf (bits x) <;> exact UnpackedFloat.unpack_packedZero
  | finite hpos h hm he =>
      rw [if_pos (isFinite_iff.mpr h)]
      cases signOf (bits x) <;> exact UnpackedFloat.unpack_packedZero

/-- None of a size, with nothing to correct, is zero if the size is a number. -/
theorem zero_mul_add_beq_zero (x : Float) : (0 * x + -0 == 0) = isFinite x := by
  have hbeq : (0 * x + -0 == 0)
      = (UnpackedFloat.unpack .binary64 (UnpackedFloat.pack .binary64
        (.add .binary64 (0 * x : Float).toModel.unpack (-0 : Float).toModel.unpack))).beq
          (0 : Float).toModel.unpack := rfl
  rw [hbeq, unpack_zero_mul, unpack_zero, unpack_minus_zero]
  cases isFinite x with
  | false =>
      show (UnpackedFloat.unpack .binary64 (UnpackedFloat.packedNaN .binary64)).beq _ = false
      rw [UnpackedFloat.unpack_packedNaN]
      rfl
  | true =>
      rw [if_pos rfl]
      have hzero {s : UnpackedFloat.Sign} : (UnpackedFloat.unpack .binary64
          (UnpackedFloat.packedZero .binary64 s)).beq (.zero .positive) = true := by
        rw [UnpackedFloat.unpack_packedZero]
        cases s <;> rfl
      cases signOf (bits x) with
      | positive => exact hzero
      | negative => exact hzero

end Binary64

namespace Metrics

variable {m : Metrics}

theorem adjustment_of_forall_le {sizes : SortedMap Nat Float} {default : Float} {bound : Nat}
    (h : ∀ k ∈ sizes.keys, bound ≤ k) : adjustment sizes default bound = -0 := by
  have hnone : sizes.toList.takeWhile (fun e => decide (e.1 < bound)) = [] := by
    refine List.takeWhile_eq_nil_iff.mpr fun hlen => ?_
    have hmem := h _ (List.mem_map_of_mem (List.getElem_mem hlen))
    simpa using hmem
  rw [adjustment, hnone]
  rfl

/-- The sheet begins at zero from the left if the width of most columns is a number. -/
theorem colLeft_zero_beq : (m.colLeft 0 == 0) = Binary64.isFinite m.defaultColWidth := by
  rw [colLeft, adjustment_of_forall_le fun _ _ => Nat.zero_le _]
  exact Binary64.zero_mul_add_beq_zero m.defaultColWidth

/-- The sheet begins at zero from the top if, besides, no height is kept for row zero. -/
theorem rowTop_one_beq (h : ∀ r ∈ m.rowHeights.keys, 1 ≤ r) :
    (m.rowTop 1 == 0) = Binary64.isFinite m.defaultRowHeight := by
  have hnone : adjustment m.rowHeights m.defaultRowHeight (max 1 1) = -0 := adjustment_of_forall_le h
  rw [rowTop, hnone]
  exact Binary64.zero_mul_add_beq_zero m.defaultRowHeight

end Metrics

theorem SortedMap.mem_keys_fill {α : Type} {m : SortedMap Nat α} {first count k : Nat} {v : α} :
    k ∈ (m.fill first count v).keys ↔ k ∈ m.keys ∨ first ≤ k ∧ k < first + count := by
  have hkeys : (m.fill first count v).keys
      = m.keys.filter (fun k => decide (k < first)) ++ List.range' first count
        ++ m.keys.filter (fun k => decide (first + count ≤ k)) := by
    rw [keys, fill, List.map_append, List.map_append, List.map_map, keys, List.filter_map,
      List.filter_map]
    exact congrArg (fun l => _ ++ l ++ _) (List.map_id _)
  rw [hkeys, List.mem_append, List.mem_append, List.mem_filter, List.mem_filter, List.mem_range'_1,
    decide_eq_true_iff, decide_eq_true_iff]
  constructor
  · rintro ((⟨h, -⟩ | h) | ⟨h, -⟩)
    · exact Or.inl h
    · exact Or.inr h
    · exact Or.inl h
  · rintro (h | h)
    · -- a key that was there is before, inside or behind the stretch
      rcases Nat.lt_or_ge k first with hlt | hge
      · exact Or.inl (Or.inl ⟨h, hlt⟩)
      · rcases Nat.lt_or_ge k (first + count) with hlt' | hge'
        · exact Or.inl (Or.inr ⟨hge, hlt'⟩)
        · exact Or.inr ⟨h, hge'⟩
    · exact Or.inl (Or.inr h)

namespace Worksheet

open Markup

variable {shared : Shared} {m : Metrics} {e : Element} {s s' : State}

/-! ## Elements that give sizes -/

/-- The sizes of a sheet after one more element. -/
def sized (m : Metrics) (e : Element) : Metrics :=
  match e.name with
  | "sheetFormatPr" => defaults m e
  | "col" => columns m e
  | "row" => row m e
  | _ => m

/-- An element gives a row its height, which is zero if the row is hidden. -/
structure GivesHeight (e : Element) (r : Nat) : Prop where
  name : e.name = "row"
  number : (e.get? "r").bind Text.word? = some r
  height : isSet (e.get? "hidden") = true ∨ ∃ x, floatOf e "ht" = some x

/-- An element gives a column its width: one on the sheet, from the first that it names to the last. -/
structure GivesWidth (e : Element) (c : Nat) : Prop where
  name : e.name = "col"
  stretch : ∃ lo hi, (e.get? "min").bind Text.word? = some lo ∧ (e.get? "max").bind Text.word? = some hi
    ∧ lo ≤ c + 1 ∧ c + 1 ≤ hi
  width : isSet (e.get? "hidden") = true ∨ ∃ x, floatOf e "width" = some x
  onSheet : c < maxColumns

/-- A size is zero if its row or column is hidden, and else what an attribute says. -/
theorem exists_size_iff (hidden : Bool) (given : Option Float) :
    (∃ x, (if hidden then some 0 else given) = some x) ↔ hidden = true ∨ ∃ x, given = some x := by
  cases hidden with
  | false => simp
  | true => simp

theorem mem_rowHeights_row (hname : e.name = "row") {r : Nat} :
    r ∈ (row m e).rowHeights.keys ↔ r ∈ m.rowHeights.keys ∨ GivesHeight e r := by
  unfold row
  cases hnumber : (e.get? "r").bind Text.word? with
  | none =>
      refine (or_iff_left fun h => ?_).symm
      rw [h.number] at hnumber
      cases hnumber
  | some r' =>
      dsimp only
      have hsize := exists_size_iff (isSet (e.get? "hidden")) (floatOf e "ht")
      cases hheight : (if isSet (e.get? "hidden") then some 0 else floatOf e "ht") with
      | none =>
          refine (or_iff_left fun h => ?_).symm
          obtain ⟨x, hx⟩ := hsize.mpr h.height
          rw [hheight] at hx
          cases hx
      | some x =>
          rw [SortedMap.mem_keys_insert, or_comm]
          refine or_congr_right ?_
          constructor
          · rintro rfl
            exact ⟨hname, hnumber, hsize.mp ⟨x, hheight⟩⟩
          · intro h
            exact Option.some.inj (h.number.symm.trans hnumber)

theorem mem_colWidths_columns (hname : e.name = "col") {c : Nat} :
    c ∈ (columns m e).colWidths.keys ↔ c ∈ m.colWidths.keys ∨ GivesWidth e c := by
  have hsize := exists_size_iff (isSet (e.get? "hidden")) ((floatOf e "width").map widthInPoints)
  have hmap : (∃ x, (floatOf e "width").map widthInPoints = some x) ↔ ∃ x, floatOf e "width" = some x := by
    simp
  rw [hmap] at hsize
  unfold columns
  dsimp only
  split
  · next lo hi x hlo hhi hx =>
    rw [SortedMap.mem_keys_fill]
    refine or_congr_right ?_
    constructor
    · rintro ⟨hfirst, hlast⟩
      exact ⟨hname, ⟨lo, hi, hlo, hhi, by omega, by omega⟩, hsize.mp ⟨x, hx⟩, by omega⟩
    · rintro ⟨-, ⟨lo', hi', hlo', hhi', hfirst, hlast⟩, -, honSheet⟩
      obtain rfl := Option.some.inj (hlo.symm.trans hlo')
      obtain rfl := Option.some.inj (hhi.symm.trans hhi')
      omega
  · next hnone =>
    refine (or_iff_left fun h => ?_).symm
    obtain ⟨lo, hi, hlo, hhi, -⟩ := h.stretch
    obtain ⟨x, hx⟩ := hsize.mpr h.width
    exact hnone lo hi x hlo hhi hx

theorem mem_rowHeights_sized {r : Nat} :
    r ∈ (sized m e).rowHeights.keys ↔ r ∈ m.rowHeights.keys ∨ GivesHeight e r := by
  have hother (h : e.name ≠ "row") : ¬ GivesHeight e r := fun hgives => h hgives.name
  unfold sized
  split
  · next hname => exact (or_iff_left (hother (by rw [hname]; decide))).symm
  · next hname =>
    have hrows : (columns m e).rowHeights = m.rowHeights := by
      unfold columns
      dsimp only
      split <;> rfl
    rw [hrows]
    exact (or_iff_left (hother (by rw [hname]; decide))).symm
  · next hname => exact mem_rowHeights_row hname
  · next hname => exact (or_iff_left (hother hname)).symm

theorem mem_colWidths_sized {c : Nat} :
    c ∈ (sized m e).colWidths.keys ↔ c ∈ m.colWidths.keys ∨ GivesWidth e c := by
  have hother (h : e.name ≠ "col") : ¬ GivesWidth e c := fun hgives => h hgives.name
  unfold sized
  split
  · next hname => exact (or_iff_left (hother (by rw [hname]; decide))).symm
  · next hname => exact mem_colWidths_columns hname
  · next hname =>
    have hcols : (row m e).colWidths = m.colWidths := by
      unfold row
      split
      · rfl
      · dsimp only
        split <;> rfl
    rw [hcols]
    exact (or_iff_left (hother (by rw [hname]; decide))).symm
  · next hname _ => exact (or_iff_left (hother hname)).symm

/-! ## Parts -/

/-- The elements of a part, in order. -/
def elements (es : List Event) : List Element := es.filterMap Event.element?

theorem metrics_mark (g : Grid) (a : Address) (v : Option CellValue) :
    (mark g a v).metrics = g.metrics := by
  cases v <;> rfl

theorem metrics_applyStyle (g : Grid) (a : Address) (style : CellStyle) :
    (applyStyle g a style).metrics = g.metrics := by
  unfold applyStyle
  cases style.fill <;> cases style.hasBorder <;> rfl

theorem metrics_put {cell : OpenCell} {g g' : Grid} (h : (put shared g cell).run = .ok (.ok g')) :
    g'.metrics = g.metrics := by
  obtain ⟨a, v, -, -, rfl⟩ := run_put_eq_ok.mp h
  rw [metrics_applyStyle, metrics_mark]

theorem metrics_attach (rels : Relationships) (g : Grid) (l : OpenLink) :
    (attach rels g l).metrics = g.metrics := by
  unfold attach
  split <;> rfl

theorem sized_of_notMem (h : e.name ∉ ["sheetFormatPr", "col", "row"]) : sized m e = m := by
  unfold sized
  split
  case h_1 hname | h_2 hname | h_3 hname => exact absurd (by rw [hname]; decide) h
  case h_4 => rfl

/-- The start of an element gives the sizes that the element says, whether it has content or not. -/
theorem metrics_start {staysOpen : Bool} (h : (start shared s e staysOpen).run = .ok (.ok s')) :
    s'.grid.metrics = sized s.grid.metrics e := by
  unfold start at h
  dsimp only at h
  split at h
  case h_1 hname | h_2 hname | h_3 hname =>
    cases h
    rw [sized, hname]
    rfl
  case h_4 hname =>
    rw [sized_of_notMem (by rw [hname]; decide)]
    cases staysOpen with
    | true =>
        cases h
        rfl
    | false =>
        rw [if_neg Bool.false_ne_true] at h
        split at h
        · obtain ⟨g, hg, h⟩ := Reading.run_bind_eq_ok.mp h
          cases h
          exact metrics_put hg
        · cases h
          rfl
  case h_5 hname | h_6 hname | h_7 hname =>
    rw [sized_of_notMem (by rw [hname]; decide)]
    cases h
    split <;> rfl
  case h_8 hname | h_9 hname =>
    rw [sized_of_notMem (by rw [hname]; decide)]
    split at h <;> cases h <;> rfl
  case h_10 hformat hcol hrow _ _ _ _ _ _ =>
    have hother : e.name ∉ ["sheetFormatPr", "col", "row"] := by
      simp only [List.mem_cons, List.not_mem_nil, or_false, not_or]
      exact ⟨hformat, hcol, hrow⟩
    rw [sized_of_notMem hother]
    cases h
    rfl

theorem metrics_finish {name : String} (h : (finish shared s name).run = .ok (.ok s')) :
    s'.grid.metrics = s.grid.metrics := by
  unfold finish at h
  split at h
  case h_1 =>
    cases hcell : s.cell with
    | none =>
        rw [hcell] at h
        cases h
        rfl
    | some cell =>
        rw [hcell] at h
        obtain ⟨g, hg, h⟩ := Reading.run_bind_eq_ok.mp h
        cases h
        exact metrics_put hg
  case h_2 | h_3 | h_4 | h_5 =>
    cases h
    rfl

/-- **One event gives the sizes of the element that it starts**, and else none. -/
theorem metrics_step {ev : Event} (h : (step shared s ev).run = .ok (.ok s')) :
    s'.grid.metrics = (elements [ev]).foldl sized s.grid.metrics := by
  cases ev with
  | opening e => exact metrics_start h
  | selfClosing e => exact metrics_start h
  | closing name => exact metrics_finish h
  | text t =>
      obtain rfl := Except.ok.inj (Except.ok.inj h)
      split <;> rfl

/-- The sizes of a part are those that its elements give, one after the other. -/
theorem metrics_foldlM {es : List Event} (h : (es.foldlM (step shared) {}).run = .ok (.ok s)) :
    s.grid.metrics = (elements es).foldl sized .standard := by
  -- from the end, because the last element may have set the default once more
  induction es using List.reverseRecOn generalizing s with
  | nil =>
      cases h
      rfl
  | append_singleton es ev ih =>
      obtain ⟨s', hs', hev⟩ := Reading.run_foldlM_concat_eq_ok.mp h
      rw [metrics_step hev, ih hs', elements, elements, elements, List.filterMap_append,
        List.foldl_append]

theorem metrics_of_run_read {p : Package} {path : String} {g : Grid}
    (h : (read p shared path).run = .ok (.ok g)) :
    ∃ es, p.events? .kept path = some es
      ∧ g.metrics = (elements es.events).foldl sized .standard := by
  obtain ⟨es, s, hes, hrun, hrest⟩ := exists_state_of_run_read h
  refine ⟨es, hes, hrest (fun g => g.metrics = _) (fun rels g l hg => ?_) (fun _ _ hg => hg)
    (metrics_foldlM hrun)⟩
  exact (metrics_attach rels g l).trans hg

theorem mem_rowHeights_foldl {es : List Element} {r : Nat} :
    r ∈ (es.foldl sized m).rowHeights.keys ↔ r ∈ m.rowHeights.keys ∨ ∃ e ∈ es, GivesHeight e r := by
  induction es generalizing m with
  | nil => simp
  | cons e es ih => rw [List.foldl_cons, ih, mem_rowHeights_sized, List.exists_mem_cons_iff, or_assoc]

theorem mem_colWidths_foldl {es : List Element} {c : Nat} :
    c ∈ (es.foldl sized m).colWidths.keys ↔ c ∈ m.colWidths.keys ∨ ∃ e ∈ es, GivesWidth e c := by
  induction es generalizing m with
  | nil => simp
  | cons e es ih => rw [List.foldl_cons, ih, mem_colWidths_sized, List.exists_mem_cons_iff, or_assoc]

/-- **A number has a size exactly if an element gives it one.** -/
theorem keys_of_run_read {p : Package} {path : String} {g : Grid}
    (h : (read p shared path).run = .ok (.ok g)) :
    ∃ es, p.events? .kept path = some es
      ∧ (∀ r, r ∈ g.metrics.rowHeights.keys ↔ ∃ e ∈ elements es.events, GivesHeight e r)
      ∧ ∀ c, c ∈ g.metrics.colWidths.keys ↔ ∃ e ∈ elements es.events, GivesWidth e c := by
  obtain ⟨es, hes, hmetrics⟩ := metrics_of_run_read h
  rw [hmetrics]
  refine ⟨es, hes, fun r => ?_, fun c => ?_⟩
  · exact mem_rowHeights_foldl.trans (or_iff_right List.not_mem_nil)
  · exact mem_colWidths_foldl.trans (or_iff_right List.not_mem_nil)

/-! ## Sizes on the sheet -/

/--
**All sizes that are kept belong to the sheet, but for heights of rows that are not on it.** Whatever the
elements of a part are, a width is kept only for a column of the sheet. A height is kept for whatever row an
element gives one, so the heights are those of rows on the sheet exactly if all these elements name such
rows. If none of them names row zero, the first row and the first column begin where the sheet does,
provided that the default sizes are numbers.
-/
theorem sizes_on_sheet_iff (p : Package) (shared : Shared) (path : String) (g : Grid)
    (h : (read p shared path).run = .ok (.ok g)) :
    ∃ es, p.events? .kept path = some es
      ∧ (∀ c ∈ g.metrics.colWidths.keys, c < maxColumns)
      ∧ ((∀ r ∈ g.metrics.rowHeights.keys, 1 ≤ r ∧ r ≤ maxRows)
        ↔ ∀ e ∈ elements es.events, ∀ r, GivesHeight e r → 1 ≤ r ∧ r ≤ maxRows)
      ∧ (g.metrics.colLeft 0 == 0) = Binary64.isFinite g.metrics.defaultColWidth
      ∧ ((∀ r ∈ g.metrics.rowHeights.keys, 1 ≤ r) →
        (g.metrics.rowTop 1 == 0) = Binary64.isFinite g.metrics.defaultRowHeight) := by
  obtain ⟨es, hes, hrows, hcols⟩ := keys_of_run_read h
  refine ⟨es, hes, fun c hc => ?_, ?_, Metrics.colLeft_zero_beq, Metrics.rowTop_one_beq⟩
  · obtain ⟨e, -, hgives⟩ := (hcols c).mp hc
    exact hgives.onSheet
  · constructor
    · intro hkeys e he r hgives
      exact hkeys r ((hrows r).mpr ⟨e, he, hgives⟩)
    · intro hgiven r hr
      obtain ⟨e, he, hgives⟩ := (hrows r).mp hr
      exact hgiven e he r hgives

/-- A package with one part, that of a sheet. -/
def partOnly (text : String) : Package where
  parts := [("xl/a.xml", Markup.bytes text)]

/-- What is kept of the sizes that the only part gives, if it can be read. -/
def keptSizes (text : String) : Option Metrics :=
  ((read (partOnly text) ⟨[], [], .from1900⟩ "xl/a.xml").run.toOption.bind Except.toOption).map
    fun g => g.metrics

theorem exists_of_keptSizes {text : String} {β : Type} {f : Metrics → β} {b : β}
    (h : (keptSizes text).map f = some b) :
    ∃ g, (read (partOnly text) ⟨[], [], .from1900⟩ "xl/a.xml").run = .ok (.ok g) ∧ f g.metrics = b := by
  obtain ⟨m, hm, hf⟩ := Option.map_eq_some_iff.mp h
  obtain ⟨g, hg, rfl⟩ := Option.map_eq_some_iff.mp hm
  exact ⟨g, Reading.run_eq_ok_iff.mpr hg, hf⟩

/-- The last row and the last column of a sheet, and columns that would follow. -/
def lastSizes : String :=
  "<worksheet><col min='16384' max='16390' width='10'/><row r='1048576' ht='30'/></worksheet>"

theorem sizes_on_sheet_iff_last :
    ∃ g es, (read (partOnly lastSizes) ⟨[], [], .from1900⟩ "xl/a.xml").run = .ok (.ok g)
      ∧ (partOnly lastSizes).events? .kept "xl/a.xml" = some es
      ∧ g.metrics.colWidths.keys = [16383] ∧ (∀ c ∈ g.metrics.colWidths.keys, c < maxColumns)
      ∧ g.metrics.rowHeights.keys = [1048576]
      ∧ (∀ e ∈ elements es.events, ∀ r, GivesHeight e r → 1 ≤ r ∧ r ≤ maxRows)
      ∧ (g.metrics.colLeft 0 == 0) = true ∧ (g.metrics.rowTop 1 == 0) = true := by
  have hkept : (keptSizes lastSizes).map (fun m => (m.colWidths.keys, m.rowHeights.keys,
      Binary64.isFinite m.defaultColWidth, Binary64.isFinite m.defaultRowHeight))
        = some ([16383], [1048576], true, true) := by
    decide +kernel
  obtain ⟨g, hg, hshown⟩ := exists_of_keptSizes hkept
  simp only [Prod.mk.injEq] at hshown
  obtain ⟨hcols, hrows, hwidth, hheight⟩ := hshown
  obtain ⟨es, hes, honSheet, hiff, hleft, htop⟩ := sizes_on_sheet_iff _ _ _ g hg
  have hkeys : ∀ r ∈ g.metrics.rowHeights.keys, 1 ≤ r ∧ r ≤ maxRows := by
    rw [hrows]
    decide
  exact ⟨g, es, hg, hes, hcols, honSheet, hrows, hiff.mp hkeys, hleft.trans hwidth,
    (htop fun r hr => (hkeys r hr).1).trans hheight⟩

/-- Heights for a row before the first one and for a row after the last one. -/
def strayHeights : String := "<worksheet><row r='0' ht='30'/><row r='1048577' ht='30'/></worksheet>"

/-- **Both heights are kept**, and the first one moves the first row down. -/
theorem stray_heights_kept :
    ∃ g, (read (partOnly strayHeights) ⟨[], [], .from1900⟩ "xl/a.xml").run = .ok (.ok g)
      ∧ g.metrics.rowHeights.keys = [0, 1048577]
      ∧ ¬ (∀ r ∈ g.metrics.rowHeights.keys, 1 ≤ r) ∧ ¬ (∀ r ∈ g.metrics.rowHeights.keys, r ≤ maxRows)
      ∧ (g.metrics.rowTop 1 == 15) = true ∧ (g.metrics.rowTop 1 == 0) = false := by
  have hkept : (keptSizes strayHeights).map (fun m => (m.rowHeights.keys, m.rowTop 1 == 15,
      m.rowTop 1 == 0)) = some ([0, 1048577], true, false) := by
    decide +kernel
  obtain ⟨g, hg, hshown⟩ := exists_of_keptSizes hkept
  simp only [Prod.mk.injEq] at hshown
  obtain ⟨hrows, hfifteen, hzero⟩ := hshown
  refine ⟨g, hg, hrows, ?_, ?_, hfifteen, hzero⟩ <;> rw [hrows] <;> decide

end Worksheet

end Sheetwise
