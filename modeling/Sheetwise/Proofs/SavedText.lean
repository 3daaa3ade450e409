import Sheetwise.Proofs.JsonText
import Sheetwise.Proofs.Saved

/-!
# Workbooks read back from text

A workbook that is written as a text and read again is the same workbook. The text of a value is read back,
and from its value the workbook is; what lies between the two is the outline, by which a reader passes over
what it does not know. In the text of a workbook there is nothing of that kind. Every member that is written
is a field, and a column is named by digits, which are never escaped, so the outline leaves everything as it
was written.

A text is read to a certain depth only. All that a workbook holds has a depth of its own, except for
diagrams, which take two levels for each of theirs. So a workbook is read back if none of its diagrams has
more than sixty levels.
-/

namespace Sheetwise

open Json

variable {α : Type}

/-! ## Outlines of what is written -/

namespace Json

theorem writtenItems_eq_map (xs : List Json) : writtenItems xs = xs.map written := by
  induction xs with
  | nil => rfl
  | cons x xs ih => rw [writtenItems, ih, List.map_cons]

theorem writtenMembers_eq_map (ms : List (String × Json)) :
    writtenMembers ms = ms.map fun m => (spelling m.1.toList, written m.2) := by
  induction ms with
  | nil => rfl
  | cons m ms ih => rw [writtenMembers, ih, List.map_cons]

/-- A digit is written as it is. -/
theorem escape_of_isDigit {c : Char} (h : Text.isDigit c = true) : escape c = [c] := by
  have hcode : ¬ c.toNat < 0x20 := by
    have := Text.isDigit_iff.mp h
    omega
  have hother {d : Char} (hd : Text.isDigit d = false) : c ≠ d := by
    rintro rfl
    rw [hd] at h
    cases h
  rw [escape, if_neg (hother (by decide)), if_neg (hother (by decide)), if_neg (hother (by decide)),
    if_neg (hother (by decide)), if_neg (hother (by decide)), if_neg (hother (by decide)),
    if_neg (hother (by decide)), if_neg hcode]

/-- All of what is written of a value is read by the outline. -/
def Outline.Keeps (o : Outline) (j : Json) : Prop := o j.written = some j.written

namespace Outline

variable {item : Outline} {names : List String} {field : String → Outline} {β : Type} {write : β → Json}

theorem keeps_whole (j : Json) : whole.Keeps j := rfl

theorem keeps_list {xs : List β} (h : ∀ x ∈ xs, item.Keeps (write x)) :
    (list item).Keeps (Json.list write xs) := by
  have hitems : (writtenItems (xs.map write)).mapM item = some (writtenItems (xs.map write)) := by
    rw [writtenItems_eq_map]
    refine mapM_eq_self ?_
    simp only [List.forall_mem_map]
    exact h
  rw [Keeps, Json.list, written, list, hitems, Option.map_some]

theorem keeps_named {ms : List (String × Json)} (h : ∀ m ∈ ms, item.Keeps m.2) :
    (named item).Keeps (.obj ms) := by
  have hmembers : ((writtenMembers ms).mapM fun m => (item m.2).map fun w => (m.1, w))
      = some (writtenMembers ms) := by
    rw [writtenMembers_eq_map]
    refine mapM_eq_self ?_
    simp only [List.forall_mem_map]
    intro m hm
    rw [h m hm, Option.map_some]
  rw [Keeps, written, named, hmembers, Option.map_some]

/-- A map by index has digits for names, so none of them is escaped. -/
theorem keeps_indexed {m : SortedMap Nat β} : (indexed whole).Keeps (ofIndexed write m) := by
  have hplain (n : Nat) : '\\' ∉ spelling (Text.ofNat n).toList := by
    intro hmem
    obtain ⟨c, hc, hback⟩ := List.mem_flatMap.mp hmem
    rw [Text.ofNat, String.toList_ofList] at hc
    have hdigit := Text.isDigit_of_mem_digitsOf hc
    rw [escape_of_isDigit hdigit, List.mem_singleton] at hback
    rw [← hback] at hdigit
    exact absurd hdigit (by decide)
  have hnames : ¬ (writtenMembers (m.toList.map fun e => (Text.ofNat e.1, write e.2))).any
      (fun m => m.1.contains '\\') = true := by
    rw [writtenMembers_eq_map]
    simp only [List.any_eq_true, List.mem_map, List.contains_iff_mem]
    rintro ⟨_, ⟨_, ⟨e, -, rfl⟩, rfl⟩, hback⟩
    exact hplain e.1 hback
  rw [Keeps, ofIndexed, written, indexed, if_neg hnames]
  exact keeps_named fun _ _ => keeps_whole _

/-- A record is read whole if all its members are fields and are read whole themselves. -/
theorem keeps_record {ms : List (String × Json)}
    (h : ∀ m ∈ ms, m.1 ∈ names ∧ (field m.1).Keeps m.2) : (record names field).Keeps (.obj ms) := by
  have hmembers : (writtenMembers ms).mapM (member names field) = some (writtenMembers ms) := by
    rw [writtenMembers_eq_map]
    refine mapM_eq_self ?_
    simp only [List.forall_mem_map]
    intro m hm
    obtain ⟨hname, hkeeps⟩ := h m hm
    refine read_then (unescape?_spelling _) ?_
    dsimp only
    rw [String.ofList_toList, if_pos (List.contains_iff_mem.mpr hname)]
    exact read_then hkeeps rfl
  rw [Keeps, written, record, hmembers, Option.map_some]

end Outline

theorem forall_mem_member {P : String × Json → Prop} {name : String} {write : α → Json} {x : Option α} :
    (∀ m ∈ member name write x, P m) ↔ ∀ a ∈ x, P (name, write a) := by
  cases x <;> simp [member]

end Json

theorem Row.keeps_toJson (row : Row) : Row.outline.Keeps row.toJson := by
  refine Outline.keeps_record ?_
  simp only [List.forall_mem_append, List.forall_mem_cons, forall_mem_member]
  simp [fieldNames, Outline.keeps_whole, Outline.keeps_indexed]

theorem PrintArea.keeps_toJson (a : PrintArea) : PrintArea.outline.Keeps a.toJson := by
  refine Outline.keeps_record ?_
  simp only [List.forall_mem_cons]
  simp [fieldNames, Outline.keeps_whole]

theorem ChartSeries.keeps_toJson (s : ChartSeries) : ChartSeries.outline.Keeps s.toJson := by
  refine Outline.keeps_record ?_
  simp only [List.forall_mem_append, List.forall_mem_cons, forall_mem_member]
  simp [fieldNames, Outline.keeps_whole]

theorem Chart.keeps_toJson (c : Chart) : Chart.outline.Keeps c.toJson := by
  have hseries : (Outline.list ChartSeries.outline).Keeps (.list ChartSeries.toJson c.series) :=
    Outline.keeps_list fun s _ => s.keeps_toJson
  refine Outline.keeps_record ?_
  simp only [List.forall_mem_append, List.forall_mem_cons, forall_mem_member]
  simp [fieldNames, Outline.keeps_whole, hseries]

theorem Sheet.keeps_toJson (s : Sheet α) : Sheet.outline.Keeps s.toJson := by
  have hrows : (Outline.list Row.outline).Keeps (.list Row.toJson s.rows) :=
    Outline.keeps_list fun row _ => row.keeps_toJson
  have hcharts : (Outline.list Chart.outline).Keeps (.list Chart.toJson s.charts) :=
    Outline.keeps_list fun c _ => c.keeps_toJson
  have hareas (areas : List PrintArea) :
      (Outline.list PrintArea.outline).Keeps (.list PrintArea.toJson areas) :=
    Outline.keeps_list fun a _ => a.keeps_toJson
  refine Outline.keeps_record ?_
  simp only [List.forall_mem_cons]
  simp [fieldNames, Outline.keeps_whole, hrows, hcharts, hareas]

theorem Workbook.keeps_toJson (w : Workbook α) : Workbook.outline.Keeps w.toJson := by
  have hsheets : (Outline.named Sheet.outline).Keeps (sheetsToJson w.sheets) := by
    refine Outline.keeps_named ?_
    simp only [List.forall_mem_map]
    exact fun e _ => e.2.keeps_toJson
  refine Outline.keeps_record ?_
  simp only [List.forall_mem_cons]
  simp [fieldNames, Outline.keeps_whole, hsheets]

/-! ## Values that their texts tell -/

namespace Json

variable {depth : Nat}

theorem writable_nat {n : Nat} (h : IsWord n) : Writable depth (.nat n) := by
  unfold IsWord at h
  exact .int ⟨by omega, by omega⟩

theorem writable_int32 {n : Int} (h : IsInt32 n) : Writable depth (.int n) := by
  unfold IsInt32 at h
  exact .int ⟨by omega, by omega⟩

theorem writable_number {x : Float} (h : Binary64.isFinite x) : Writable depth (.number x) := by
  rw [number_of_isFinite h]
  exact .float h

theorem writable_list {β : Type} {write : β → Json} {xs : List β} (h : ∀ x ∈ xs, Writable depth (write x)) :
    Writable (depth + 1) (.list write xs) :=
  .arr (List.forall_mem_map.mpr h)

theorem writable_ofIndexed {β : Type} {write : β → Json} {m : SortedMap Nat β}
    (h : ∀ e ∈ m.entries, Writable depth (write e.2)) : Writable (depth + 1) (ofIndexed write m) :=
  .obj (List.forall_mem_map.mpr h)

end Json

/-- A node with nodes below it to a depth of `k` at most, itself included. -/
inductive Diagram.Node.NestedWithin : Nat → Diagram.Node → Prop where
  | intro {k : Nat} {n : Diagram.Node} : (∀ kid ∈ n.kids, NestedWithin k kid) → NestedWithin (k + 1) n

/-- A form with nodes to a depth of `k` at most. -/
def Form.NestedWithin (k : Nat) : Form → Prop
  | .shape | .arrow _ => True
  | .diagram _ nodes => ∀ n ∈ nodes, n.NestedWithin k

/-- A sheet with diagrams to a depth of `k` at most. -/
def Sheet.NestedWithin (k : Nat) (s : Sheet α) : Prop := ∀ g ∈ s.shapes, g.form.NestedWithin k

/-- A workbook with diagrams to a depth of `k` at most. -/
def Workbook.NestedWithin (k : Nat) (w : Workbook α) : Prop := ∀ e ∈ w.sheets.entries, e.2.NestedWithin k

variable {depth k : Nat}

theorem CellValue.writable {v : CellValue} (h : v.Storable) : Writable depth v.toJson := by
  cases v with
  | bool => exact .bool
  | int n =>
      obtain ⟨hlow, hhigh⟩ : IsInt64 n := h
      exact .int ⟨hlow, by omega⟩
  | float x => exact writable_number h
  | text => exact .str

theorem Row.writable {row : Row} (h : row.Storable) : Writable (depth + 2) row.toJson := by
  refine .obj ?_
  simp only [List.forall_mem_append, List.forall_mem_cons, forall_mem_member]
  have hcells : Writable (depth + 1) (ofIndexed CellValue.toJson row.cells) :=
    writable_ofIndexed fun e he => CellValue.writable (h.cells e he).2
  exact ⟨⟨writable_nat h.number, hcells, List.forall_mem_nil _⟩,
    fun _ _ => writable_ofIndexed fun _ _ => .str⟩

theorem PrintArea.writable {a : PrintArea} (h : a.Storable) : Writable (depth + 1) a.toJson := by
  refine .obj ?_
  simp only [List.forall_mem_cons]
  exact ⟨writable_nat h.r1, writable_nat h.c1, writable_nat h.r2, writable_nat h.c2,
    List.forall_mem_nil _⟩

theorem Diagram.Node.writable {n : Diagram.Node} (h : n.Storable) (hn : n.NestedWithin k) :
    Writable (depth + 2 * k) n.toJson := by
  induction hn with
  | @intro k n _ ih =>
      obtain ⟨hlevel, hkids⟩ := h
      rw [toJson]
      refine .obj ?_
      simp only [List.forall_mem_cons]
      refine ⟨writable_nat hlevel, .str, .arr ?_, List.forall_mem_nil _⟩
      exact List.forall_mem_map.mpr fun kid hkid => ih kid hkid (hkids kid hkid)

theorem Frame.writable {f : Frame} (h : f.Storable) : ∀ m ∈ f.toMembers, Writable depth m.2 := by
  simp only [toMembers, List.forall_mem_append, List.forall_mem_cons, forall_mem_member]
  refine ⟨⟨⟨⟨⟨⟨fun n hn => writable_nat (h.id n hn), ?fixed⟩, fun n hn => writable_int32 (h.width n hn)⟩,
    fun n hn => writable_int32 (h.height n hn)⟩, fun _ _ => .str⟩,
    fun x hx => writable_number (h.rotation x hx)⟩, fun _ _ => .str⟩
  exact ⟨.str, writable_int32 h.left, writable_int32 h.top, List.forall_mem_nil _⟩

theorem ArrowEnds.writable {e : ArrowEnds} (h : e.Storable) : ∀ m ∈ e.toMembers, Writable depth m.2 := by
  simp only [toMembers, List.forall_mem_append, forall_mem_member]
  exact ⟨⟨⟨fun n hn => writable_int32 (h.beginStyle n hn), fun n hn => writable_int32 (h.endStyle n hn)⟩,
    fun n hn => writable_nat (h.beginId n hn)⟩, fun n hn => writable_nat (h.endId n hn)⟩

theorem Graphic.writable {g : Graphic} (h : g.Storable) (hg : g.form.NestedWithin k) :
    Writable (depth + 2 * k + 2) g.toJson := by
  refine .obj ?_
  simp only [List.forall_mem_append, List.forall_mem_cons]
  refine ⟨.str, Frame.writable h.frame, ?_⟩
  have hform := h.form
  cases hshape : g.form with
  | shape => exact List.forall_mem_nil _
  | arrow ends =>
      rw [hshape] at hform
      exact ArrowEnds.writable hform
  | diagram layout nodes =>
      rw [hshape] at hform hg
      simp only [formMembers, List.forall_mem_cons]
      exact ⟨.str, writable_list fun n hn => Diagram.Node.writable (hform n hn) (hg n hn),
        List.forall_mem_nil _⟩

theorem ChartSeries.writable (s : ChartSeries) : Writable (depth + 1) s.toJson := by
  refine .obj ?_
  simp only [List.forall_mem_append, List.forall_mem_cons, forall_mem_member]
  exact ⟨⟨⟨⟨.str, List.forall_mem_nil _⟩, fun _ _ => .str⟩, fun _ _ => .str⟩, fun _ _ => .str⟩

theorem Chart.writable {c : Chart} (h : c.Storable) : Writable (depth + 3) c.toJson := by
  refine .obj ?_
  simp only [List.forall_mem_append, List.forall_mem_cons, forall_mem_member]
  refine ⟨⟨⟨⟨⟨⟨.str, .str, List.forall_mem_nil _⟩, fun _ _ => .str⟩, ?fixed⟩,
    fun n hn => writable_int32 (h.width n hn)⟩, fun n hn => writable_int32 (h.height n hn)⟩,
    fun _ _ => .str⟩
  exact ⟨.str, writable_list fun x hx => writable_number (h.yAxisRange x hx),
    writable_list fun s _ => s.writable, writable_int32 h.left, writable_int32 h.top,
    List.forall_mem_nil _⟩

theorem writable_colorsToJson {colors : ColorMap}
    (h : ∀ e ∈ colors.entries, ∀ cell ∈ e.2, IsWord cell.1 ∧ IsWord cell.2) :
    Writable (depth + 3) (colorsToJson colors) := by
  refine .obj (List.forall_mem_map.mpr fun e he => writable_list fun cell hcell => .arr ?_)
  simp only [List.forall_mem_cons]
  exact ⟨writable_nat (h e he cell hcell).1, writable_nat (h e he cell hcell).2, List.forall_mem_nil _⟩

theorem Sheet.writable {s : Sheet α} (h : s.Storable) (hs : s.NestedWithin k) :
    Writable (depth + 2 * k + 5) s.toJson := by
  refine .obj ?_
  simp only [List.forall_mem_cons]
  exact ⟨writable_list fun row hrow => Row.writable (h.rows row hrow),
    writable_list fun g hg => (Graphic.writable (h.shapes g hg) (hs g hg)).succ,
    writable_list fun c hc => Chart.writable (h.charts c hc),
    writable_list fun _ _ => .str,
    writable_list fun a ha => PrintArea.writable (h.printAreas a ha),
    writable_list fun a ha => PrintArea.writable (h.autoPrintAreas a ha),
    writable_colorsToJson h.colors, List.forall_mem_nil _⟩

theorem Workbook.writable {w : Workbook α} (h : w.Storable) (hw : w.NestedWithin k) :
    Writable (depth + 2 * k + 7) w.toJson := by
  refine .obj ?_
  simp only [List.forall_mem_cons]
  refine ⟨.str, .obj (List.forall_mem_map.mpr fun e he => ?_), List.forall_mem_nil _⟩
  exact Sheet.writable (h e he) (hw e he)

/--
**A workbook is read back from its text**, its sheets in their order and everything on them as it was, but
for the sizes of rows and columns, if none of its diagrams has more than sixty levels.
-/
theorem Workbook.ofText?_text {w : Workbook α} (h : w.Storable) (hw : w.NestedWithin 60) :
    ofText? w.toJson.text = some w.withStandardSizes := by
  have hwritable : Writable (0 + 2 * 60 + 7) w.toJson := Workbook.writable h hw
  rw [ofText?]
  refine read_then hwritable.ofText?_text ?_
  refine read_then w.keeps_toJson ?_
  exact read_then hwritable.value?_written (ofJson?_toJson h)

end Sheetwise
