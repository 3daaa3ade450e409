import Sheetwise.Codec.Sheet
import Sheetwise.Proofs.Fields
import Sheetwise.Proofs.Named
import Sheetwise.Proofs.Sorted
import Sheetwise.Proofs.Spelling

/-!
# Workbooks read back

A workbook that is written as a JSON value and read again is the same workbook, with its sheets in the
order they had. Only the sizes of rows and columns are gone, since they are not written. The value is the
one that is emitted: an object has its members in the order in which they come, and a number is the double
that it is. If a value is kept in between by something that sorts members by name, or that rounds numbers,
then the order of the sheets or the last bit of a number may be lost there.

What could go wrong is that something is taken for something else. A cell is written as the bare value it
holds and a reader tries one kind of value after the other; columns become the names of members and have
to become numbers again; a graphic is one flat object, of which each reader picks the members it knows;
and a diagram nests to any depth. A number beyond the width of its field, or a floating-point number
that is not finite, has no JSON value to be read back from; a workbook without these is *storable*.
-/

namespace Sheetwise

open Json

variable {α : Type}

/-! ## What a workbook may hold -/

/-- A value that is neither an integer beyond 64 bits nor an infinite or undefined number. -/
def CellValue.Storable : CellValue → Prop
  | .int n => IsInt64 n
  | .float x => Binary64.isFinite x
  | .bool _ | .text _ => True

/-- A row with its number and columns within their widths and storable cells. -/
structure Row.Storable (row : Row) : Prop where
  number : IsWord row.number
  cells : ∀ e ∈ row.cells.entries, IsWord e.1 ∧ e.2.Storable
  links : ∀ m ∈ row.links, ∀ e ∈ m.entries, IsWord e.1

/-- An area with its corners within their widths. -/
structure PrintArea.Storable (a : PrintArea) : Prop where
  r1 : IsWord a.r1
  c1 : IsWord a.c1
  r2 : IsWord a.r2
  c2 : IsWord a.c2

/-- A node of a diagram with its level, and those of all below it, within their width. -/
inductive Diagram.Node.Storable : Diagram.Node → Prop where
  | intro {n : Diagram.Node} : IsWord n.level → (∀ kid ∈ n.kids, Storable kid) → Storable n

/-- A frame with its numbers within their widths and a finite rotation. -/
structure Frame.Storable (f : Frame) : Prop where
  id : ∀ n ∈ f.id, IsWord n
  left : IsInt32 f.left
  top : IsInt32 f.top
  width : ∀ n ∈ f.width, IsInt32 n
  height : ∀ n ∈ f.height, IsInt32 n
  rotation : ∀ x ∈ f.rotation, Binary64.isFinite x

/-- The ends of an arrow with their numbers within their widths. -/
structure ArrowEnds.Storable (e : ArrowEnds) : Prop where
  beginStyle : ∀ n ∈ e.beginStyle, IsInt32 n
  endStyle : ∀ n ∈ e.endStyle, IsInt32 n
  beginId : ∀ n ∈ e.beginId, IsWord n
  endId : ∀ n ∈ e.endId, IsWord n

/-- A form with its numbers within their widths. -/
def Form.Storable : Form → Prop
  | .shape => True
  | .arrow ends => ends.Storable
  | .diagram _ nodes => ∀ n ∈ nodes, n.Storable

/-- A graphic with a storable frame and form. -/
structure Graphic.Storable (g : Graphic) : Prop where
  frame : g.toFrame.Storable
  form : g.form.Storable

/-- A chart with its numbers within their widths and a finite axis. -/
structure Chart.Storable (c : Chart) : Prop where
  yAxisRange : ∀ x ∈ c.yAxisRange, Binary64.isFinite x
  left : IsInt32 c.left
  top : IsInt32 c.top
  width : ∀ n ∈ c.width, IsInt32 n
  height : ∀ n ∈ c.height, IsInt32 n

/-- A sheet of which everything is storable. Its sizes are not stored and may be any. -/
structure Sheet.Storable (s : Sheet α) : Prop where
  rows : ∀ row ∈ s.rows, row.Storable
  shapes : ∀ g ∈ s.shapes, g.Storable
  charts : ∀ c ∈ s.charts, c.Storable
  printAreas : ∀ a ∈ s.printAreas, a.Storable
  autoPrintAreas : ∀ a ∈ s.autoPrintAreas, a.Storable
  colors : ∀ e ∈ s.colors.entries, ∀ cell ∈ e.2, IsWord cell.1 ∧ IsWord cell.2

/-- A workbook of storable sheets. -/
def Workbook.Storable (w : Workbook α) : Prop := ∀ e ∈ w.sheets.entries, e.2.Storable

/-- What is left of a sheet that does not keep the sizes of its rows and columns. -/
def Sheet.withStandardSizes (s : Sheet α) : Sheet :=
  { s with metrics := .standard }

/-- The workbook with the same sheets in the same order, without their sizes. -/
def Workbook.withStandardSizes (w : Workbook α) : Workbook where
  bookName := w.bookName
  sheets := w.sheets.map fun _ s => s.withStandardSizes

/-! ## Maps by index -/

theorem Json.index?_ofNat {n : Nat} (h : IsWord n) : index? (Text.ofNat n) = some n := by
  have hzero : ¬ ((Text.digitsOf n).head? = some '0' ∧ Text.digitsOf n ≠ ['0']) :=
    fun hzero => hzero.2 (Text.digitsOf_eq_of_head? hzero.1)
  have hle : n ≤ Text.maxWord := h
  rw [index?, Text.ofNat, String.toList_ofList, if_neg hzero, Text.digits?_digitsOf,
    Option.filter_some, if_pos (decide_eq_true hle)]

theorem Json.indexed?_ofIndexed {β : Type} {write : β → Json} {read : Json → Option β}
    {m : SortedMap Nat β} (hkey : ∀ e ∈ m.entries, IsWord e.1)
    (hitem : ∀ e ∈ m.entries, read (write e.2) = some e.2) :
    indexed? read (ofIndexed write m) = some m := by
  have hread : entries? index? read (ofIndexed write m) = some m.entries :=
    entries?_obj Text.ofNat (fun e he => index?_ofNat (hkey e he)) hitem
  rw [indexed?, hread, Option.map_some, SortedMap.ofList_entries]

/-! ## Cells -/

/--
A cell is of the kind that it was written as. A whole floating-point number is not written as an integer,
and neither kind of number is a truth value or a text.
-/
theorem CellValue.ofJson?_toJson {v : CellValue} (h : v.Storable) : ofJson? v.toJson = some v := by
  cases v with
  | bool | text => rfl
  | int n => rw [toJson, ofJson?, int64?_int h]; rfl
  | float x =>
      -- a float is never written as an integer, so the reader of integers passes it over
      have hx : Binary64.isFinite x := h
      rw [toJson, number_of_isFinite hx]
      rfl

theorem Row.ofJson?_toJson {row : Row} (h : row.Storable) : ofJson? row.toJson = some row := by
  have hlinks : orNull? (indexed? str?) (Json.option (ofIndexed .str) row.links) = some row.links :=
    orNull?_option (fun m => by simp [ofIndexed]) fun m hm =>
      indexed?_ofIndexed (h.links m hm) fun _ _ => rfl
  rw [ofJson?, toJson]
  refine read_then (members?_of_sublist
    (.cons_cons _ (.cons_cons _ map_fst_member_sublist)) (by decide)) ?_
  refine read_then (word?_nat h.number) ?_
  refine read_then (indexed?_ofIndexed (fun e he => (h.cells e he).1) fun e he =>
    CellValue.ofJson?_toJson (h.cells e he).2) ?_
  exact read_then (Record.optional?_of_get? (by simp) hlinks) rfl

theorem PrintArea.ofJson?_toJson {a : PrintArea} (h : a.Storable) : ofJson? a.toJson = some a := by
  rw [ofJson?, toJson]
  refine read_then (fields?_obj (by rfl) (by decide)) ?_
  refine read_then (word?_nat h.r1) ?_
  refine read_then (word?_nat h.c1) ?_
  refine read_then (word?_nat h.r2) ?_
  exact read_then (word?_nat h.c2) rfl

/-! ## Graphics -/

theorem Diagram.Node.ofJson?_toJson {n : Diagram.Node} (h : n.Storable) :
    ofJson? n.toJson = some n := by
  induction h with
  | @intro n hlevel _ ih =>
      have hkids : (n.kids.map toJson).attach.mapM (fun item => ofJson? item.1) = some n.kids := by
        rw [List.mapM_subtype fun _ _ => rfl, List.unattach_attach]
        exact list?_list ih
      have hread : n.toJson.fields? fieldNames
          = some [("level", .nat n.level), ("text", .str n.text), ("kids", .arr (n.kids.map toJson))] := by
        rw [toJson]
        exact fields?_obj (by rfl) (by decide)
      -- the equation of the reader remembers what was read, so it is split and not rewritten
      rw [ofJson?]
      split
      · next hnone =>
        rw [hread] at hnone
        cases hnone
      · next r hr =>
        obtain rfl := Option.some.inj (hread.symm.trans hr)
        refine read_then (word?_nat hlevel) ?_
        refine read_then (str?_str _) ?_
        -- a nested structure is not its fields by definition
        exact read_then hkids (by cases n; rfl)

theorem Direction.ofJson?_name (d : Direction) : ofJson? (.str d.name) = some d := by
  cases d <;> decide

theorem Frame.toMembers_sublist (f : Frame) :
    (f.toMembers.map Prod.fst).Sublist Frame.fieldNames := by
  show List.Sublist _ (["id"] ++ ["text", "l", "t"] ++ ["w"] ++ ["h"] ++ ["type"] ++ ["rotation"]
    ++ ["direction"])
  simp only [toMembers, List.map_append]
  exact (((((map_fst_member_sublist.append (.refl _)).append map_fst_member_sublist).append
    map_fst_member_sublist).append map_fst_member_sublist).append map_fst_member_sublist).append
    map_fst_member_sublist

theorem Frame.ofRecord?_toMembers {f : Frame} (h : f.Storable) : ofRecord? f.toMembers = some f := by
  have hdirection : orNull? Direction.ofJson? (Json.option (fun d => .str d.name) f.direction)
      = some f.direction :=
    orNull?_option (fun _ => by simp) fun d _ => Direction.ofJson?_name d
  rw [ofRecord?]
  refine read_then (Record.optional?_of_get? (by simp [toMembers]) (orNull?_word h.id)) ?_
  refine read_then (Record.required?_of_get? (by simp [toMembers]) (str?_str f.text)) ?_
  refine read_then (Record.required?_of_get? (by simp [toMembers]) (int32?_int h.left)) ?_
  refine read_then (Record.required?_of_get? (by simp [toMembers]) (int32?_int h.top)) ?_
  refine read_then (Record.optional?_of_get? (by simp [toMembers]) (orNull?_int32 h.width)) ?_
  refine read_then (Record.optional?_of_get? (by simp [toMembers]) (orNull?_int32 h.height)) ?_
  refine read_then (Record.optional?_of_get? (by simp [toMembers]) (orNull?_str f.typeName)) ?_
  refine read_then (Record.optional?_of_get? (by simp [toMembers]) (orNull?_float h.rotation)) ?_
  exact read_then (Record.optional?_of_get? (by simp [toMembers]) hdirection) rfl

theorem ArrowEnds.toMembers_sublist (e : ArrowEnds) :
    (e.toMembers.map Prod.fst).Sublist ArrowEnds.fieldNames := by
  show List.Sublist _ (["begin_arrow_style"] ++ ["end_arrow_style"] ++ ["begin_id"] ++ ["end_id"])
  simp only [toMembers, List.map_append]
  exact ((map_fst_member_sublist.append map_fst_member_sublist).append
    map_fst_member_sublist).append map_fst_member_sublist

theorem ArrowEnds.ofRecord?_toMembers {e : ArrowEnds} (h : e.Storable) :
    ofRecord? e.toMembers = some e := by
  rw [ofRecord?]
  refine read_then (Record.optional?_of_get? (by simp [toMembers]) (orNull?_int32 h.beginStyle)) ?_
  refine read_then (Record.optional?_of_get? (by simp [toMembers]) (orNull?_int32 h.endStyle)) ?_
  refine read_then (Record.optional?_of_get? (by simp [toMembers]) (orNull?_word h.beginId)) ?_
  exact read_then (Record.optional?_of_get? (by simp [toMembers]) (orNull?_word h.endId)) rfl

namespace Graphic

variable {g : Graphic}

/-- The names that the members of a form can have. -/
theorem map_fst_formMembers_subset (form : Form) :
    (formMembers form).map Prod.fst ⊆ ArrowEnds.fieldNames ++ ["layout", "nodes"] := by
  cases form with
  | shape => exact List.nil_subset _
  | arrow ends => exact List.subset_append_of_subset_left _ ends.toMembers_sublist.subset
  | diagram layout nodes => exact List.subset_append_right _ _

/-- Members are passed over by whoever reads none of their names. -/
theorem forall_notMem_of_subset {ms : List (String × Json)} {names others : List String}
    (h : ms.map Prod.fst ⊆ others) (hothers : ∀ name ∈ others, name ∉ names) :
    ∀ m ∈ ms, m.1 ∉ names :=
  fun _ hm => hothers _ (h (List.mem_map_of_mem hm))

theorem members?_kind (g : Graphic) :
    g.toJson.members? ["kind"] = some [("kind", .str g.form.name)] := by
  have hafter : ∀ m ∈ g.toFrame.toMembers ++ formMembers g.form, m.1 ∉ ["kind"] :=
    List.forall_mem_append.mpr
      ⟨forall_notMem_of_subset g.toFrame.toMembers_sublist.subset (by decide),
        forall_notMem_of_subset (map_fst_formMembers_subset g.form) (by decide)⟩
  have hkind : ([("kind", Json.str g.form.name)].map Prod.fst).Sublist ["kind"] := .refl _
  exact members?_between hkind (by decide) (List.forall_mem_nil _) hafter

theorem members?_frame (g : Graphic) :
    g.toJson.members? Frame.fieldNames = some g.toFrame.toMembers := by
  have hkind : ∀ m ∈ [("kind", Json.str g.form.name)], m.1 ∉ Frame.fieldNames :=
    forall_notMem_of_subset (List.Subset.refl ["kind"]) (by decide)
  exact members?_between g.toFrame.toMembers_sublist (by decide) hkind
    (forall_notMem_of_subset (map_fst_formMembers_subset g.form) (by decide))

/-- The members of the form are read if none of their names is one of all graphics. -/
theorem members?_form {form : Form} {names : List String} (hform : g.form = form)
    (h : ((formMembers form).map Prod.fst).Sublist names) (hn : names.Nodup)
    (hothers : ∀ name ∈ "kind" :: Frame.fieldNames, name ∉ names) :
    g.toJson.members? names = some (formMembers form) := by
  subst hform
  have hbefore : ∀ m ∈ ("kind", Json.str g.form.name) :: g.toFrame.toMembers, m.1 ∉ names :=
    forall_notMem_of_subset (g.toFrame.toMembers_sublist.cons_cons "kind").subset hothers
  have hread := members?_between h hn hbefore (List.forall_mem_nil _)
  rwa [List.append_nil] at hread

/-- Each kind of graphic finds its own members among those that all graphics have. -/
theorem formOf?_toJson (h : g.form.Storable) : formOf? g.form.name g.toJson = some g.form := by
  cases hform : g.form with
  | shape => rfl
  | arrow ends =>
      rw [hform] at h
      refine read_then (members?_form hform ends.toMembers_sublist (by decide) (by decide)) ?_
      exact read_then (ArrowEnds.ofRecord?_toMembers h) rfl
  | diagram layout nodes =>
      rw [hform] at h
      refine read_then (members?_form hform (.refl _) (by decide) (by decide)) ?_
      refine read_then (str?_str _) ?_
      exact read_then (list?_list fun n hn => Diagram.Node.ofJson?_toJson (h n hn)) rfl

theorem ofJson?_toJson (h : g.Storable) : ofJson? g.toJson = some g := by
  rw [ofJson?]
  refine read_then (members?_kind g) ?_
  refine read_then (str?_str _) ?_
  refine read_then (formOf?_toJson h.form) ?_
  refine read_then (members?_frame g) ?_
  exact read_then (Frame.ofRecord?_toMembers h.frame) rfl

end Graphic

/-! ## Charts -/

theorem ChartSeries.ofJson?_toJson (s : ChartSeries) : ofJson? s.toJson = some s := by
  rw [ofJson?, toJson]
  refine read_then (members?_of_sublist ?names (by decide)) ?_
  case names =>
    show List.Sublist _ (["name"] ++ ["name_range"] ++ ["x_range"] ++ ["y_range"])
    simp only [List.map_append]
    exact (((List.Sublist.refl _).append map_fst_member_sublist).append
      map_fst_member_sublist).append map_fst_member_sublist
  refine read_then (str?_str _) ?_
  refine read_then (Record.optional?_of_get? (by simp) (orNull?_str s.nameRange)) ?_
  refine read_then (Record.optional?_of_get? (by simp) (orNull?_str s.xRange)) ?_
  exact read_then (Record.optional?_of_get? (by simp) (orNull?_str s.yRange)) rfl

theorem Chart.ofJson?_toJson {c : Chart} (h : c.Storable) : ofJson? c.toJson = some c := by
  have hrange : list? float? (list number c.yAxisRange) = some c.yAxisRange :=
    list?_list fun x hx => float?_number (h.yAxisRange x hx)
  have hseries : list? ChartSeries.ofJson? (list ChartSeries.toJson c.series) = some c.series :=
    list?_list fun s _ => s.ofJson?_toJson
  rw [ofJson?, toJson]
  refine read_then (members?_of_sublist ?names (by decide)) ?_
  case names =>
    show List.Sublist _ (["name", "chart_type"] ++ ["title"]
      ++ ["y_axis_title", "y_axis_range", "series", "l", "t"] ++ ["w"] ++ ["h"] ++ ["error"])
    simp only [List.map_append]
    exact (((((List.Sublist.refl _).append map_fst_member_sublist).append (.refl _)).append
      map_fst_member_sublist).append map_fst_member_sublist).append map_fst_member_sublist
  refine read_then (str?_str _) ?_
  refine read_then (str?_str _) ?_
  refine read_then (Record.optional?_of_get? (by simp) (orNull?_str c.title)) ?_
  refine read_then (Record.orElse?_of_get? (by simp) (str?_str c.yAxisTitle)) ?_
  refine read_then (Record.orElse?_of_get? (by simp) hrange) ?_
  refine read_then (Record.orElse?_of_get? (by simp) hseries) ?_
  refine read_then (Record.required?_of_get? (by simp) (int32?_int h.left)) ?_
  refine read_then (Record.required?_of_get? (by simp) (int32?_int h.top)) ?_
  refine read_then (Record.optional?_of_get? (by simp) (orNull?_int32 h.width)) ?_
  refine read_then (Record.optional?_of_get? (by simp) (orNull?_int32 h.height)) ?_
  exact read_then (Record.optional?_of_get? (by simp) (orNull?_str c.error)) rfl

/-! ## Sheets and workbooks -/

theorem colorsOfJson?_colorsToJson {colors : ColorMap}
    (h : ∀ e ∈ colors.entries, ∀ cell ∈ e.2, IsWord cell.1 ∧ IsWord cell.2) :
    colorsOfJson? (colorsToJson colors) = some colors := by
  have hread : entries? some (list? (pair? word? word?)) (colorsToJson colors)
      = some colors.entries :=
    entries?_obj id (fun _ _ => rfl) fun e he => list?_list fun cell hcell =>
      pair?_arr (word?_nat (h e he cell hcell).1) (word?_nat (h e he cell hcell).2)
  rw [colorsOfJson?, hread, Option.map_some, SortedMap.ofList_entries]

theorem Sheet.ofJson?_toJson {s : Sheet α} (h : s.Storable) :
    ofJson? s.toJson = some s.withStandardSizes := by
  rw [ofJson?, toJson]
  refine read_then (fields?_obj (by rfl) (by decide)) ?_
  refine read_then (list?_list fun row hrow => Row.ofJson?_toJson (h.rows row hrow)) ?_
  refine read_then (list?_list fun g hg => Graphic.ofJson?_toJson (h.shapes g hg)) ?_
  refine read_then (list?_list fun c hc => Chart.ofJson?_toJson (h.charts c hc)) ?_
  refine read_then (list?_list fun _ _ => rfl) ?_
  refine read_then (list?_list fun a ha => PrintArea.ofJson?_toJson (h.printAreas a ha)) ?_
  refine read_then (list?_list fun a ha => PrintArea.ofJson?_toJson (h.autoPrintAreas a ha)) ?_
  exact read_then (colorsOfJson?_colorsToJson h.colors) rfl

theorem sheetsOfJson?_sheetsToJson {sheets : Named (Sheet α)}
    (h : ∀ e ∈ sheets.entries, e.2.Storable) :
    sheetsOfJson? (sheetsToJson sheets) = some (sheets.map fun _ s => s.withStandardSizes) := by
  have hread : entries? some Sheet.ofJson? (sheetsToJson sheets)
      = some (sheets.map fun _ s => s.withStandardSizes).entries :=
    entries?_map id (fun _ _ => rfl) fun e he => Sheet.ofJson?_toJson (h e he)
  rw [sheetsOfJson?, hread, Option.map_some, Named.ofList_entries]

theorem Workbook.ofJson?_toJson {w : Workbook α} (h : w.Storable) :
    ofJson? w.toJson = some w.withStandardSizes := by
  rw [ofJson?, toJson]
  refine read_then (fields?_obj (by rfl) (by decide)) ?_
  refine read_then (str?_str _) ?_
  exact read_then (sheetsOfJson?_sheetsToJson h) rfl

/--
**A workbook is read back from what is written of it.**

Whatever a storable workbook holds, its JSON value is read as the same workbook: its sheets in their
order, each cell of the kind it was, each field with or without a value as before, each graphic of its
kind and each diagram in its shape. The sizes of rows and columns alone are the standard ones again.
-/
theorem Workbook.survives_saving {w : Workbook α} (h : w.Storable) :
    ofJson? w.toJson = some w.withStandardSizes :=
  ofJson?_toJson h

/-- A sheet with a cell, a graphic and everything else of each kind, and with sizes of its own. -/
def Sheet.ofEachKind : Sheet where
  rows := [
    { number := 1
      cells := ⟨[(0, .bool true), (1, .int 2), (2, .float 2), (10, .text "2")], by decide⟩
      links := some ⟨[(10, "#Notes!A1")], by decide⟩ },
    { number := 1048576 }]
  shapes := [
    { id := some 1, left := -5, top := 0, width := some 40, rotation := some 45, form := .shape },
    { left := 0, top := 0, direction := some .northWest
      form := .arrow { beginId := some 1, endStyle := some 2 } },
    { left := 0, top := 0
      form := .diagram "hierarchy" [⟨0, "a", [⟨1, "b", [⟨3, "c", []⟩]⟩, ⟨1, "d", []⟩]⟩] }]
  charts := [
    { name := "Chart 1", yAxisRange := [0, 1.5], series := [{ name := "s", yRange := some "B1:B3" }]
      left := 0, top := 90 }]
  tableCandidates := ["A1:B3"]
  printAreas := [⟨1, 0, 40, 6⟩]
  colors := ⟨[("FFFF00", [(1, 0), (2, 1)])], by decide⟩
  metrics := { Metrics.standard with defaultRowHeight := 30 }

/-- A workbook whose sheets are not in the order of their names. -/
def Workbook.ofEachKind : Workbook where
  bookName := "Book1.xlsx"
  sheets := ⟨[("Sheet1", .ofEachKind), ("Notes", .blank)], by decide⟩

theorem Sheet.storable_ofEachKind : Sheet.ofEachKind.Storable where
  rows := by
    simp only [ofEachKind, List.forall_mem_cons]
    refine ⟨⟨by decide, ?cells, ?links⟩, ⟨by decide, List.forall_mem_nil _, fun _ h => nomatch h⟩,
      List.forall_mem_nil _⟩
    case cells =>
      simp only [List.forall_mem_cons]
      have hint : IsInt64 2 := by decide
      have hfinite : Binary64.isFinite 2 := by decide +kernel
      exact ⟨⟨by decide, trivial⟩, ⟨by decide, hint⟩, ⟨by decide, hfinite⟩,
        ⟨by decide, trivial⟩, List.forall_mem_nil _⟩
    case links =>
      rintro m ⟨⟩
      exact List.forall_mem_singleton.mpr (by decide)
  shapes := by
    simp only [ofEachKind, List.forall_mem_cons]
    refine ⟨⟨?shape, trivial⟩, ⟨?pointer, ?ends⟩, ⟨?picture, ?nodes⟩, List.forall_mem_nil _⟩
    case shape => exact ⟨by decide, by decide, by decide, by decide, by decide, by decide +kernel⟩
    case pointer => exact ⟨by decide, by decide, by decide, by decide, by decide, by decide⟩
    case ends => exact ⟨by decide, by decide, by decide, by decide⟩
    case picture => exact ⟨by decide, by decide, by decide, by decide, by decide, by decide⟩
    case nodes =>
      have hleaf {n : Diagram.Node} (hlevel : IsWord n.level) (hkids : n.kids = []) : n.Storable :=
        .intro hlevel (by rw [hkids]; exact List.forall_mem_nil _)
      refine List.forall_mem_singleton.mpr (.intro (by decide) ?_)
      simp only [List.forall_mem_cons]
      refine ⟨.intro (by decide) ?_, hleaf (by decide) rfl, List.forall_mem_nil _⟩
      exact List.forall_mem_singleton.mpr (hleaf (by decide) rfl)
  charts := List.forall_mem_singleton.mpr
    ⟨by decide +kernel, by decide, by decide, by decide, by decide⟩
  printAreas := List.forall_mem_singleton.mpr ⟨by decide, by decide, by decide, by decide⟩
  autoPrintAreas := List.forall_mem_nil _
  colors := List.forall_mem_singleton.mpr (by decide)

theorem Workbook.survives_saving_of_each_kind :
    Workbook.ofEachKind.Storable ∧
      Workbook.ofJson? Workbook.ofEachKind.toJson = some Workbook.ofEachKind.withStandardSizes := by
  have hblank : Sheet.blank.Storable :=
    ⟨List.forall_mem_nil _, List.forall_mem_nil _, List.forall_mem_nil _, List.forall_mem_nil _,
      List.forall_mem_nil _, List.forall_mem_nil _⟩
  have hstorable : Workbook.ofEachKind.Storable :=
    List.forall_mem_cons.mpr ⟨Sheet.storable_ofEachKind, List.forall_mem_singleton.mpr hblank⟩
  exact ⟨hstorable, Workbook.survives_saving hstorable⟩

end Sheetwise
