import Sheetwise.Codec.Message
import Sheetwise.Proofs.Fields

/-!
# Messages read back

Whatever the client and the bridge have to say to each other survives the way through JSON: the request
that is read is the one that was written, and so is the response, with every report in it.

Two things make this more than a matter of one field after another. The data of a response do not say
what they are but by the name of their one member, and a cell value not even that: a reader takes the
first kind that fits. So each kind has to be shown not to fit what another kind has written, whatever
it holds. And a whole number beyond the width of its field, or a floating-point number that is not
finite, has no JSON value that is read back as the same number; a message without these is *sendable*.
-/

namespace Sheetwise

open Json

namespace Reported

/-! ## What a report may hold -/

/-- A value that is not an infinite or undefined number. -/
def Value.Sendable : Value → Prop
  | .number x => Binary64.isFinite x
  | .null | .bool _ | .text _ | .error _ => True

/-- A drawing with its codes within their widths and its measures finite. -/
structure Drawing.Sendable (d : Drawing) : Prop where
  id : ∀ n ∈ d.id, IsWord n
  left : Binary64.isFinite d.left
  top : Binary64.isFinite d.top
  width : Binary64.isFinite d.width
  height : Binary64.isFinite d.height
  typeCode : IsInt32 d.typeCode
  autoShapeCode : ∀ n ∈ d.autoShapeCode, IsInt32 n
  rotation : Binary64.isFinite d.rotation
  diagramItems : ∀ i ∈ d.diagramItems, IsWord i.1
  beginArrowStyle : ∀ n ∈ d.beginArrowStyle, IsInt32 n
  endArrowStyle : ∀ n ∈ d.endArrowStyle, IsInt32 n
  beginConnectedId : ∀ n ∈ d.beginConnectedId, IsWord n
  endConnectedId : ∀ n ∈ d.endConnectedId, IsWord n

/-- A chart with its code within its width and its measures finite. -/
structure Chart.Sendable (c : Chart) : Prop where
  typeCode : IsInt32 c.typeCode
  yAxisMin : ∀ x ∈ c.yAxisMin, Binary64.isFinite x
  yAxisMax : ∀ x ∈ c.yAxisMax, Binary64.isFinite x
  left : Binary64.isFinite c.left
  top : Binary64.isFinite c.top
  width : Binary64.isFinite c.width
  height : Binary64.isFinite c.height

/-- An area with its corners within their widths. -/
structure Area.Sendable (a : Area) : Prop where
  firstRow : IsWord a.firstRow
  firstCol : IsWord a.firstCol
  lastRow : IsWord a.lastRow
  lastCol : IsWord a.lastCol

/-- Page breaks with their rows and columns within their widths. -/
structure PageBreaks.Sendable (p : PageBreaks) : Prop where
  areas : ∀ a ∈ p.areas, a.Sendable
  rowBreaks : ∀ n ∈ p.rowBreaks, IsWord n
  colBreaks : ∀ n ∈ p.colBreaks, IsWord n

/-- A cell with its place within its width and a sendable value. -/
structure Cell.Sendable (c : Cell) : Prop where
  row : IsWord c.row
  col : IsWord c.col
  value : c.value.Sendable

/-- A link with its place within its width. -/
structure Link.Sendable (l : Link) : Prop where
  row : IsWord l.row
  col : IsWord l.col

/-- A size with its row or column within its width and its measure finite. -/
structure SizeSendable (s : Nat × Float) : Prop where
  index : IsWord s.1
  size : Binary64.isFinite s.2

/-- A used range with sendable cells and links and its measures finite. -/
structure UsedRange.Sendable (u : UsedRange) : Prop where
  cells : ∀ c ∈ u.cells, c.Sendable
  links : ∀ l ∈ u.links, l.Sendable
  defaultRowHeight : Binary64.isFinite u.defaultRowHeight
  defaultColWidth : Binary64.isFinite u.defaultColWidth
  rowHeights : ∀ s ∈ u.rowHeights, SizeSendable s
  colWidths : ∀ s ∈ u.colWidths, SizeSendable s

/-! ## Reports -/

/--
A cell value is of the kind that it was written as. A number is no truth value or text, and the object
of an error is no number.
-/
theorem Value.ofJson?_toJson {v : Value} (h : v.Sendable) : ofJson? v.toJson = some v := by
  cases v with
  | null | bool | text => rfl
  | number x =>
      have hx : Binary64.isFinite x := h
      rw [toJson, number_of_isFinite hx]
      rfl
  | error code =>
      rw [toJson, ofJson?, fields?_obj (by rfl) (by decide)]
      · rfl
      all_goals simp

theorem itemOfJson?_itemToJson {i : Diagram.Item} (h : IsWord i.1) :
    itemOfJson? (itemToJson i) = some i := by
  rw [itemOfJson?, itemToJson]
  refine read_then (fields?_obj (by rfl) (by decide)) ?_
  refine read_then (word?_nat h) ?_
  exact read_then (str?_str _) rfl

theorem Drawing.ofJson?_toJson {d : Drawing} (h : d.Sendable) : ofJson? d.toJson = some d := by
  rw [ofJson?, toJson]
  refine read_then (fields?_obj (by rfl) (by decide)) ?_
  refine read_then (orNull?_word h.id) ?_
  refine read_then (str?_str _) ?_
  refine read_then (str?_str _) ?_
  refine read_then (float?_number h.left) ?_
  refine read_then (float?_number h.top) ?_
  refine read_then (float?_number h.width) ?_
  refine read_then (float?_number h.height) ?_
  refine read_then (int32?_int h.typeCode) ?_
  refine read_then (orNull?_int32 h.autoShapeCode) ?_
  refine read_then (orNull?_str _) ?_
  refine read_then (float?_number h.rotation) ?_
  refine read_then (bool?_bool _) ?_
  refine read_then (orNull?_str _) ?_
  refine read_then (list?_list fun i hi => itemOfJson?_itemToJson (h.diagramItems i hi)) ?_
  refine read_then (orNull?_int32 h.beginArrowStyle) ?_
  refine read_then (orNull?_int32 h.endArrowStyle) ?_
  refine read_then (bool?_bool _) ?_
  refine read_then (orNull?_word h.beginConnectedId) ?_
  refine read_then (orNull?_word h.endConnectedId) ?_
  refine read_then (bool?_bool _) ?_
  exact read_then (bool?_bool _) rfl

theorem Series.ofJson?_toJson (s : Series) : ofJson? s.toJson = some s := by
  rw [ofJson?, toJson]
  refine read_then (fields?_obj (by rfl) (by decide)) ?_
  refine read_then (str?_str _) ?_
  exact read_then (str?_str _) rfl

theorem Chart.ofJson?_toJson {c : Chart} (h : c.Sendable) : ofJson? c.toJson = some c := by
  rw [ofJson?, toJson]
  refine read_then (fields?_obj (by rfl) (by decide)) ?_
  refine read_then (str?_str _) ?_
  refine read_then (int32?_int h.typeCode) ?_
  refine read_then (orNull?_str _) ?_
  refine read_then (str?_str _) ?_
  refine read_then (orNull?_float h.yAxisMin) ?_
  refine read_then (orNull?_float h.yAxisMax) ?_
  refine read_then (list?_list fun s _ => Series.ofJson?_toJson s) ?_
  refine read_then (float?_number h.left) ?_
  refine read_then (float?_number h.top) ?_
  refine read_then (float?_number h.width) ?_
  refine read_then (float?_number h.height) ?_
  exact read_then (orNull?_str _) rfl

theorem Area.ofJson?_toJson {a : Area} (h : a.Sendable) : ofJson? a.toJson = some a := by
  rw [ofJson?, toJson]
  refine read_then (fields?_obj (by rfl) (by decide)) ?_
  refine read_then (word?_nat h.firstRow) ?_
  refine read_then (word?_nat h.firstCol) ?_
  refine read_then (word?_nat h.lastRow) ?_
  exact read_then (word?_nat h.lastCol) rfl

theorem PageBreaks.ofJson?_toJson {p : PageBreaks} (h : p.Sendable) :
    ofJson? p.toJson = some p := by
  rw [ofJson?, toJson]
  refine read_then (fields?_obj (by rfl) (by decide)) ?_
  refine read_then (list?_list fun a ha => Area.ofJson?_toJson (h.areas a ha)) ?_
  refine read_then (list?_list fun n hn => word?_nat (h.rowBreaks n hn)) ?_
  exact read_then (list?_list fun n hn => word?_nat (h.colBreaks n hn)) rfl

theorem Cell.ofJson?_toJson {c : Cell} (h : c.Sendable) : ofJson? c.toJson = some c := by
  rw [ofJson?, toJson]
  refine read_then (fields?_obj (by rfl) (by decide)) ?_
  refine read_then (word?_nat h.row) ?_
  refine read_then (word?_nat h.col) ?_
  refine read_then (Value.ofJson?_toJson h.value) ?_
  refine read_then (orNull?_str _) ?_
  exact read_then (bool?_bool _) rfl

theorem Link.ofJson?_toJson {l : Link} (h : l.Sendable) : ofJson? l.toJson = some l := by
  rw [ofJson?, toJson]
  refine read_then (fields?_obj (by rfl) (by decide)) ?_
  refine read_then (word?_nat h.row) ?_
  refine read_then (word?_nat h.col) ?_
  exact read_then (str?_str _) rfl

namespace UsedRange

theorem pair?_sizeToJson {s : Nat × Float} (h : SizeSendable s) :
    pair? word? float? (sizeToJson s) = some s :=
  pair?_arr (word?_nat h.index) (float?_number h.size)

theorem ofJson?_toJson {u : UsedRange} (h : u.Sendable) : ofJson? u.toJson = some u := by
  rw [ofJson?, toJson]
  refine read_then (fields?_obj (by rfl) (by decide)) ?_
  refine read_then (list?_list fun c hc => Cell.ofJson?_toJson (h.cells c hc)) ?_
  refine read_then (list?_list fun l hl => Link.ofJson?_toJson (h.links l hl)) ?_
  refine read_then (list?_list fun s _ => str?_str s) ?_
  refine read_then (float?_number h.defaultRowHeight) ?_
  refine read_then (float?_number h.defaultColWidth) ?_
  refine read_then (list?_list fun s hs => pair?_sizeToJson (h.rowHeights s hs)) ?_
  exact read_then (list?_list fun s hs => pair?_sizeToJson (h.colWidths s hs)) rfl

end UsedRange

end Reported

namespace Bridge

/-! ## What a message may hold -/

/-- A reference with its place within its width. -/
def SheetRef.Sendable : SheetRef → Prop
  | .index n => IsWord n
  | .name _ => True

/-- A command with its handle within its width and a sendable reference. -/
def Command.Sendable : Command → Prop
  | .init | .openWorkbook _ | .shutdown => True
  | .listSheets workbook | .closeWorkbook workbook => IsLongWord workbook
  | .getShapes workbook sheet | .getCharts workbook sheet | .getPrintAreas workbook sheet
  | .getPageBreaks workbook sheet | .getGrid workbook sheet =>
      IsLongWord workbook ∧ sheet.Sendable

/-- A request with its number within its width and a sendable command. -/
structure Request.Sendable (r : Request) : Prop where
  id : IsLongWord r.id
  command : r.command.Sendable

/-- Data with its handle within its width, or with sendable reports. -/
def Payload.Sendable : Payload → Prop
  | .workbook handle => IsLongWord handle
  | .sheets _ | .printArea _ => True
  | .shapes drawings => ∀ d ∈ drawings, d.Sendable
  | .charts drawn => ∀ c ∈ drawn, c.Sendable
  | .pageBreaks breaks => breaks.Sendable
  | .grid range => range.Sendable

/-- A failure, or a success with no data or with sendable ones. -/
def Outcome.Sendable : Outcome → Prop
  | .ok data => ∀ p ∈ data, p.Sendable
  | .error _ => True

/-- A response with its number within its width and a sendable outcome. -/
structure Response.Sendable (r : Response) : Prop where
  id : IsLongWord r.id
  outcome : r.outcome.Sendable

/-! ## Requests -/

theorem SheetRef.ofJson?_toJson {s : SheetRef} (h : s.Sendable) : ofJson? s.toJson = some s := by
  cases s with
  | index n => rw [ofJson?, toJson, word?_nat h]; rfl
  | name s => rfl

namespace Command

variable {workbook : Nat} {sheet : SheetRef}

theorem onWorkbook?_workbookParams {c : Nat → Command} (h : IsLongWord workbook) :
    onWorkbook? c (some (workbookParams workbook)) = some (c workbook) := by
  rw [onWorkbook?, workbookParams]
  refine read_then rfl ?_
  refine read_then (members?_of_names (by rfl) (by decide)) ?_
  exact read_then (longWord?_nat h) rfl

theorem onSheet?_sheetParams {c : Nat → SheetRef → Command}
    (h : IsLongWord workbook ∧ sheet.Sendable) :
    onSheet? c (some (sheetParams workbook sheet)) = some (c workbook sheet) := by
  rw [onSheet?, sheetParams]
  refine read_then rfl ?_
  refine read_then (members?_of_names (by rfl) (by decide)) ?_
  refine read_then (longWord?_nat h.1) ?_
  exact read_then (SheetRef.ofJson?_toJson h.2) rfl

/-- A command is found by its name, with the parameters that it gives. -/
theorem ofName?_name {c : Command} (h : c.Sendable) : ofName? c.name c.params? = some c := by
  cases c with
  | init | openWorkbook | shutdown => rfl
  | listSheets workbook | closeWorkbook workbook => exact onWorkbook?_workbookParams h
  | getShapes workbook sheet | getCharts workbook sheet | getPrintAreas workbook sheet
  | getPageBreaks workbook sheet | getGrid workbook sheet => exact onSheet?_sheetParams h

end Command

theorem Request.ofJson?_toJson {r : Request} (h : r.Sendable) : ofJson? r.toJson = some r := by
  have hparams : Record.get? (("id", nat r.id) :: r.command.toMembers) "params"
      = r.command.params? := by
    simp [Command.toMembers, Record.get?_cons, Record.get?_member]
  rw [ofJson?, toJson]
  refine read_then
    (members?_of_sublist (.cons_cons _ (.cons_cons _ map_fst_member_sublist)) (by decide)) ?_
  refine read_then (longWord?_nat h.id) ?_
  refine read_then (a := r.command.name) rfl ?_
  rw [hparams]
  exact read_then (Command.ofName?_name h.command) rfl

/-! ## Responses -/

namespace Payload

variable {α : Type} {name : String} {j : Json} {item : Json → Option α}

theorem under?_self : under? (.obj [(name, j)]) name item = item j := by
  rw [under?, members?_of_names (by rfl) (by simp)]
  simp

/-- What is written under one name does not fit a kind of another name. -/
theorem under?_of_ne {name' : String} (h : name' ≠ name) :
    under? (.obj [(name', j)]) name item = none := by
  rw [under?, members?_obj (by simp [h])]
  simp [h]

/--
The data of a response are of the kind that they were written as: none of the kinds that are tried
before it has its name.
-/
theorem ofJson?_toJson {p : Payload} (h : p.Sendable) : ofJson? p.toJson = some p := by
  cases p with
  | workbook handle => simp [ofJson?, toJson, under?_self, longWord?_nat h]
  | sheets names =>
      have hread := list?_list fun s (_ : s ∈ names) => str?_str s
      simp [ofJson?, toJson, under?_self, under?_of_ne, hread]
  | shapes drawings =>
      have hread := list?_list fun d hd => Reported.Drawing.ofJson?_toJson (h d hd)
      simp [ofJson?, toJson, under?_self, under?_of_ne, hread]
  | charts drawn =>
      have hread := list?_list fun c hc => Reported.Chart.ofJson?_toJson (h c hc)
      simp [ofJson?, toJson, under?_self, under?_of_ne, hread]
  | pageBreaks breaks =>
      have hread := Reported.PageBreaks.ofJson?_toJson h
      simp [ofJson?, toJson, under?_self, under?_of_ne, hread]
  | grid range =>
      have hread := Reported.UsedRange.ofJson?_toJson h
      simp [ofJson?, toJson, under?_self, under?_of_ne, hread]
  | printArea text => simp [ofJson?, toJson, under?_self, under?_of_ne]

theorem toJson_ne_null (p : Payload) : p.toJson ≠ .null := by
  cases p <;> simp [toJson]

end Payload

namespace Outcome

/-- No member of an outcome is taken for the number of the response. -/
theorem members?_id {o : Outcome} {id : Json} :
    members? ["id"] (.obj (("id", id) :: o.toMembers)) = some [("id", id)] := by
  cases o with
  | error message => simp [members?, toMembers]
  | ok data => cases data <;> simp [members?, toMembers, member]

/-- The outcome is told by its own members, whatever number stands before them. -/
theorem ofJson?_toMembers {o : Outcome} {id : Json} (h : o.Sendable) :
    ofJson? (.obj (("id", id) :: o.toMembers)) = some o := by
  cases o with
  | error message => simp [ofJson?, toMembers, members?, succeeded?]
  | ok data =>
      cases data with
      | none => simp [ofJson?, toMembers, members?, member, succeeded?]
      | some p =>
          have hread : orNull? Payload.ofJson? p.toJson = some (some p) :=
            orNull?_option Payload.toJson_ne_null fun p hp => Payload.ofJson?_toJson (h p hp)
          simp [ofJson?, toMembers, members?, member, succeeded?, hread]

end Outcome

theorem Response.ofJson?_toJson {r : Response} (h : r.Sendable) : ofJson? r.toJson = some r := by
  rw [ofJson?, toJson]
  refine read_then Outcome.members?_id ?_
  refine read_then (longWord?_nat h.id) ?_
  exact read_then (Outcome.ofJson?_toMembers h.outcome) rfl

/--
**Messages survive the way through JSON.**

Every sendable request and every sendable response is read back from its JSON value as it was: with
whole numbers that have the widths of their fields and finite floating-point numbers, nothing is lost
or taken for something else.
-/
theorem messages_read_back :
    (∀ r : Request, r.Sendable → Request.ofJson? r.toJson = some r) ∧
      ∀ r : Response, r.Sendable → Response.ofJson? r.toJson = some r :=
  ⟨fun _ => Request.ofJson?_toJson, fun _ => Response.ofJson?_toJson⟩

/-- A request that names its sheet. -/
def gridOfData : Request := ⟨7, .getGrid 1 (.name "Data")⟩

/-- A response with a cell of each kind. -/
def cellsOfEachKind : Response :=
  ⟨7, .ok (some (.grid {
    cells := [⟨1, 1, .null, none, true⟩, ⟨1, 2, .bool true, none, false⟩,
      ⟨2, 1, .number 1.5, some "FFFF00", false⟩, ⟨2, 2, .text "1.5", none, false⟩,
      ⟨3, 1, .error "#N/A", none, false⟩]
    links := [⟨2, 2, "#Data!A1"⟩]
    defaultRowHeight := 15
    defaultColWidth := 8.43
    rowHeights := [(2, 30)] }))⟩

theorem messages_read_back_of_each_kind :
    gridOfData.Sendable ∧ Request.ofJson? gridOfData.toJson = some gridOfData ∧
      cellsOfEachKind.Sendable ∧
        Response.ofJson? cellsOfEachKind.toJson = some cellsOfEachKind := by
  have hrequest : gridOfData.Sendable := ⟨by decide, by decide, trivial⟩
  have hnumber : Binary64.isFinite 1.5 := by decide +kernel
  have hresponse : cellsOfEachKind.Sendable := by
    refine ⟨by decide, fun p hp => ?_⟩
    cases hp
    refine ⟨?_, ?_, by decide +kernel, by decide +kernel, ?_, List.forall_mem_nil _⟩
    · simp only [List.forall_mem_cons]
      exact ⟨⟨by decide, by decide, trivial⟩, ⟨by decide, by decide, trivial⟩,
        ⟨by decide, by decide, hnumber⟩, ⟨by decide, by decide, trivial⟩,
        ⟨by decide, by decide, trivial⟩, List.forall_mem_nil _⟩
    · simp only [List.forall_mem_cons]
      exact ⟨⟨by decide, by decide⟩, List.forall_mem_nil _⟩
    · simp only [List.forall_mem_cons]
      exact ⟨⟨by decide, by decide +kernel⟩, List.forall_mem_nil _⟩
  exact ⟨hrequest, messages_read_back.1 _ hrequest, hresponse, messages_read_back.2 _ hresponse⟩

end Bridge

end Sheetwise
