import Sheetwise.Proofs.Representation
import Sheetwise.Proofs.Saved
import Sheetwise.Proofs.WholeParts

/-!
# The numbers of a sheet

A number of a cell is kept in one of two ways, as an integer if it is whole and exact and as a double
otherwise. So no number is kept in both ways, and each is read back as it was from what is written of it.
That is the intention, and it is met where the double is a number at all. The reader of doubles takes
more than numbers, though: words for what is infinite or undefined, and more digits than a double can
have. The text of a cell that is one of these is kept as a double that is written as nothing.

To say of a stored value where it came from, the grid is compared before and after each event. Only the
end of a cell changes a value, and then the value is that of the cell.
-/

namespace Sheetwise

/-! ## Numbers that are kept in one way -/

namespace CellValue

/-- A number that is kept as numbers should be; what is no number is. -/
def Canonical : CellValue → Prop
  | .int n => n.natAbs < 2 ^ 53
  | .float x => Binary64.isFinite x = true
    ∧ ((¬ ∃ n : Int, Binary64.value x = n) ∨ 2 ^ 53 ≤ |Binary64.value x|)
  | .bool _ | .text _ => True

theorem exactLimit_eq : exactLimit = 2 ^ 53 := by
  decide

/-- **A double is kept as a number should be** if it is one. -/
theorem canonical_number_iff {x : Float} : (number x).Canonical ↔ Binary64.isFinite x = true := by
  unfold number
  split
  · next h =>
    have hfinite : Binary64.isFinite x = true := by
      have hwhole := h.1
      rw [Binary64.isWhole, Bool.and_eq_true] at hwhole
      exact hwhole.1
    refine iff_of_true ?_ hfinite
    show (Binary64.truncate x).natAbs < 2 ^ 53
    rw [← exactLimit_eq]
    exact h.2
  · next h =>
    constructor
    · intro hcanonical
      exact hcanonical.1
    · intro hfinite
      refine ⟨hfinite, ?_⟩
      rw [← Binary64.isWhole_iff hfinite]
      by_cases hwhole : Binary64.isWhole x = true
      · -- a whole number is kept as a double only if it is too large for an integer
        have hlarge : 2 ^ 53 ≤ ⌊Binary64.magnitude (Binary64.magnitudeBits x)⌋₊ := by
          rw [← Binary64.natAbs_truncate hfinite, ← exactLimit_eq]
          exact Nat.not_lt.mp fun hlt => h ⟨hwhole, hlt⟩
        refine Or.inr ?_
        rw [Binary64.abs_value]
        have hfloor := Nat.floor_le (Binary64.magnitude_nonneg (Binary64.magnitudeBits x))
        exact le_trans (by exact_mod_cast hlarge) hfloor
      · exact Or.inl hwhole

theorem number_of_not_isFinite {x : Float} (h : Binary64.isFinite x = false) : number x = .float x := by
  rw [number, if_neg fun hwhole => ?_]
  rw [Binary64.isWhole, h] at hwhole
  cases hwhole.1

theorem Canonical.storable {v : CellValue} (h : v.Canonical) : v.Storable := by
  cases v with
  | bool b => trivial
  | text s => trivial
  | float x => exact h.1
  | int n =>
      have hn : n.natAbs < 2 ^ 53 := h
      show -9223372036854775808 ≤ n ∧ n ≤ 9223372036854775807
      omega

/-- What is no number is written as nothing, and nothing is read as no cell. -/
theorem ofJson?_toJson_of_not_isFinite {x : Float} (h : Binary64.isFinite x = false) :
    ofJson? (float x).toJson = none := by
  rw [toJson, Json.number, if_neg (by rw [h]; exact Bool.false_ne_true)]
  rfl

end CellValue

namespace Worksheet

open Markup

variable {shared : Shared} {cell : OpenCell} {a : Address} {v : CellValue}

/-! ## The value of a cell -/

/-- A text that is read as a double, but as one that is infinite or undefined. -/
def ReadsBoundless (text : String) : Prop :=
  ∃ x, Text.float? (Text.trim text) = some x ∧ Binary64.isFinite x = false

/--
A cell of numbers with a text that is read as no number: a word such as `inf` or `nan`, or digits beyond
the largest double.
-/
structure OpenCell.Unbounded (cell : OpenCell) : Prop where
  isNumber : cell.kind = none ∨ cell.kind = some "n"
  value : ∃ text, cell.value = some text ∧ ReadsBoundless text

theorem OpenCell.unbounded_iff {text : String} (hkind : cell.kind = none ∨ cell.kind = some "n")
    (hvalue : cell.value = some text) : cell.Unbounded ↔ ReadsBoundless text := by
  constructor
  · intro hcell
    obtain ⟨text', hvalue', htext⟩ := hcell.value
    rw [hvalue] at hvalue'
    cases hvalue'
    exact htext
  · intro htext
    exact ⟨hkind, text, hvalue, htext⟩

theorem OpenCell.not_unbounded_of_kind {kind : String} (h : cell.kind = some kind)
    (hkind : kind ≠ "n") : ¬ cell.Unbounded := by
  intro hcell
  rcases hcell.isNumber with hnone | hn
  · rw [h] at hnone
    cases hnone
  · rw [h] at hn
    exact hkind (Option.some.inj hn)

/-- What is no number is no date. -/
theorem textOf?_of_not_isFinite (system : DateSystem) {x : Float} (h : Binary64.isFinite x = false) :
    SerialDate.textOf? system x = .ok none := by
  have hnone : SerialDate.ofFloat? x = none := by
    rw [SerialDate.ofFloat?, h]
    rfl
  rw [SerialDate.textOf?, hnone]

/-- A text stands for a text if it is not read as a double or is shown as a date, and else for that. -/
theorem numberValue_eq_ok {dates : DateSystem} {isDate : Bool} {text : String}
    (h : numberValue dates isDate text = .ok v) :
    (∃ s, v = .text s ∧ ¬ ReadsBoundless text)
      ∨ ∃ x, v = .number x ∧ Text.float? (Text.trim text) = some x := by
  unfold numberValue at h
  unfold ReadsBoundless
  cases hx : Text.float? (Text.trim text) with
  | none =>
      rw [hx] at h
      cases h
      exact Or.inl ⟨text, rfl, by simp⟩
  | some x =>
      rw [hx] at h
      dsimp only at h
      cases isDate with
      | false =>
          cases h
          exact Or.inr ⟨x, rfl, rfl⟩
      | true =>
          rw [if_pos rfl] at h
          obtain ⟨date, hdate, h⟩ := Checked.bind_eq_ok.mp h
          cases date with
          | none =>
              cases h
              exact Or.inr ⟨x, rfl, rfl⟩
          | some date =>
              cases h
              refine Or.inl ⟨date, rfl, fun hgiven => ?_⟩
              obtain ⟨y, hy, hnot⟩ := hgiven
              obtain rfl := Option.some.inj hy
              rw [textOf?_of_not_isFinite dates hnot] at hdate
              cases hdate

/-- The value of a cell is a number as it was read, or something else in a cell with bounds. -/
theorem of_run_value {isDate : Bool} (h : (value shared isDate cell).run = .ok (.ok (some v))) :
    (∃ x, v = .number x ∧ (cell.Unbounded ↔ Binary64.isFinite x = false))
      ∨ v.Canonical ∧ ¬ cell.Unbounded := by
  have hnumber {text : String} (hkind : cell.kind = none ∨ cell.kind = some "n")
      (hvalue : cell.value = some text)
      (h : (ExceptT.lift ((numberValue shared.dates isDate text).map some)
        : Reading (Option CellValue)).run = .ok (.ok (some v))) :
      (∃ x, v = .number x ∧ (cell.Unbounded ↔ Binary64.isFinite x = false))
        ∨ v.Canonical ∧ ¬ cell.Unbounded := by
    obtain ⟨w, hw, hsome⟩ := Checked.map_eq_ok.mp (Reading.run_lift_eq_ok.mp h)
    obtain rfl := Option.some.inj hsome
    rw [OpenCell.unbounded_iff hkind hvalue]
    rcases numberValue_eq_ok hw with ⟨s, rfl, hnot⟩ | ⟨x, rfl, hx⟩
    · exact Or.inr ⟨trivial, hnot⟩
    · refine Or.inl ⟨x, rfl, ?_⟩
      rw [ReadsBoundless, hx]
      simp
  unfold value at h
  split at h
  · next hkind =>
    cases h
    exact Or.inr ⟨trivial, OpenCell.not_unbounded_of_kind hkind (by decide)⟩
  · cases h
  · next hkind _ =>
    obtain ⟨s, _, h⟩ := Reading.run_bind_eq_ok.mp h
    cases h
    exact Or.inr ⟨trivial, OpenCell.not_unbounded_of_kind hkind (by decide)⟩
  · next hkind _ =>
    cases h
    exact Or.inr ⟨trivial, OpenCell.not_unbounded_of_kind hkind (by decide)⟩
  · next hkind _ =>
    cases h
    exact Or.inr ⟨trivial, OpenCell.not_unbounded_of_kind hkind (by decide)⟩
  · next hkind hvalue => exact hnumber (Or.inl hkind) hvalue h
  · next hkind hvalue => exact hnumber (Or.inr hkind) hvalue h
  · next kind _ _ _ _ hn hkind _ =>
    cases h
    exact Or.inr ⟨trivial, OpenCell.not_unbounded_of_kind hkind hn⟩

/-- **What a cell holds is kept as it should be, and read back, unless the cell is without bounds.** -/
theorem canonical_iff_of_run_value {isDate : Bool}
    (h : (value shared isDate cell).run = .ok (.ok (some v))) :
    (v.Canonical ↔ ¬ cell.Unbounded) ∧ (CellValue.ofJson? v.toJson = some v ↔ ¬ cell.Unbounded) := by
  rcases of_run_value h with ⟨x, rfl, hx⟩ | ⟨hcanonical, hbounded⟩
  · cases hfinite : Binary64.isFinite x with
    | true =>
        have hcanonical := CellValue.canonical_number_iff.mpr hfinite
        have hbounded : ¬ cell.Unbounded := by
          rw [hx, hfinite]
          exact Bool.noConfusion
        exact ⟨iff_of_true hcanonical hbounded,
          iff_of_true (CellValue.ofJson?_toJson hcanonical.storable) hbounded⟩
    | false =>
        have hcell : cell.Unbounded := hx.mpr hfinite
        have hcanonical : ¬ (CellValue.number x).Canonical := by
          rw [CellValue.canonical_number_iff, hfinite]
          exact Bool.noConfusion
        refine ⟨iff_of_false hcanonical (not_not.mpr hcell), iff_of_false ?_ (not_not.mpr hcell)⟩
        rw [CellValue.number_of_not_isFinite hfinite, CellValue.ofJson?_toJson_of_not_isFinite hfinite]
        exact fun hnone => by cases hnone
  · exact ⟨iff_of_true hcanonical hbounded,
      iff_of_true (CellValue.ofJson?_toJson hcanonical.storable) hbounded⟩

/-! ## Where a value comes from -/

/-- Among some events there is one that completes a cell, and this has a value at its place. -/
structure ReadFrom (shared : Shared) (es : List Event) (cell : OpenCell) (a : Address)
    (v : CellValue) : Prop where
  completed : ∃ before ev after s, es = before ++ ev :: after
    ∧ (before.foldlM (step shared) {}).run = .ok (.ok s) ∧ Completes s ev cell
  placed : Address.parse cell.reference = .ok a
  value : (value shared (cell.styleIn shared).isDate cell).run = .ok (.ok (some v))

/-- What was read of some events was read of these and more. -/
theorem ReadFrom.append {es : List Event} (h : ReadFrom shared es cell a v) (ev : Event) :
    ReadFrom shared (es ++ [ev]) cell a v := by
  obtain ⟨before, ev', after, s, rfl, hs, hcell⟩ := h.completed
  refine ⟨⟨before, ev', after ++ [ev], s, ?_, hs, hcell⟩, h.placed, h.value⟩
  rw [List.append_assoc, List.cons_append]

theorem value?_setValue {g : Grid} {b : Address} {w : CellValue}
    (h : (g.setValue b w).value? a = some v) : g.value? a = some v ∨ a = b ∧ v = w := by
  have hcells : (g.setValue b w).value? a
      = (if w.isEmpty then g.cells.erase b else g.cells.insert b w).get? a := rfl
  rw [hcells] at h
  by_cases hab : a = b
  · subst hab
    cases hempty : w.isEmpty with
    | true =>
        rw [hempty, if_pos rfl, SortedMap.get?_erase_self] at h
        cases h
    | false =>
        rw [hempty, if_neg Bool.false_ne_true, SortedMap.get?_insert_self] at h
        exact Or.inr ⟨rfl, (Option.some.inj h).symm⟩
  · refine Or.inl ?_
    cases hempty : w.isEmpty with
    | true =>
        rw [hempty, if_pos rfl, SortedMap.get?_erase_of_ne _ hab] at h
        exact h
    | false =>
        rw [hempty, if_neg Bool.false_ne_true, SortedMap.get?_insert_of_ne _ _ hab] at h
        exact h

theorem cells_applyStyle (g : Grid) (a : Address) (style : CellStyle) :
    (applyStyle g a style).cells = g.cells := by
  unfold applyStyle
  cases style.fill <;> cases style.hasBorder <;> rfl

/-- Only the cell that is put has a new value. -/
theorem value?_put {g g' : Grid} (hput : (put shared g cell).run = .ok (.ok g'))
    (h : g'.value? a = some v) : g.value? a = some v
      ∨ Address.parse cell.reference = .ok a
        ∧ (value shared (cell.styleIn shared).isDate cell).run = .ok (.ok (some v)) := by
  obtain ⟨b, w, hplaced, hw, rfl⟩ := run_put_eq_ok.mp hput
  have hmark : (mark g b w).value? a = some v := by
    rw [Grid.value?, cells_applyStyle] at h
    exact h
  cases w with
  | none => exact Or.inl hmark
  | some w =>
      rcases value?_setValue hmark with hold | ⟨rfl, rfl⟩
      · exact Or.inl hold
      · exact Or.inr ⟨hplaced, hw⟩

/-- **Each value was read from a cell.** -/
theorem exists_readFrom {es : List Event} {s : State}
    (hrun : (es.foldlM (step shared) {}).run = .ok (.ok s)) (h : s.grid.value? a = some v) :
    ∃ cell, ReadFrom shared es cell a v := by
  -- from the end, because the last event may have given the value
  induction es using List.reverseRecOn generalizing s with
  | nil =>
      cases hrun
      cases h
  | append_singleton es ev ih =>
      obtain ⟨s', hs', hev⟩ := Reading.run_foldlM_concat_eq_ok.mp hrun
      have hold (h : s'.grid.value? a = some v) : ∃ cell, ReadFrom shared (es ++ [ev]) cell a v := by
        obtain ⟨cell, hcell⟩ := ih hs' h
        exact ⟨cell, hcell.append ev⟩
      have hchanges := changes_step hev
      generalize s.grid = g at h hchanges
      cases hchanges with
      | sizes metrics => exact hold h
      | @cell cell _ hcompletes hput =>
          rcases value?_put hput h with h | ⟨hplaced, hvalue⟩
          · exact hold h
          · exact ⟨cell, ⟨es, ev, [], s', rfl, hs', hcompletes⟩, hplaced, hvalue⟩

theorem cells_attach (rels : Relationships) (g : Grid) (l : OpenLink) :
    (attach rels g l).cells = g.cells := by
  unfold attach
  split <;> rfl

/-- The links and the tables leave the values as they are. -/
theorem exists_readFrom_of_run_read {p : Package} {path : String} {g : Grid}
    (hread : (read p shared path).run = .ok (.ok g)) :
    ∃ es, p.events? .kept path = some es
      ∧ ∀ a v, g.value? a = some v → ∃ cell, ReadFrom shared es.events cell a v := by
  obtain ⟨es, s, hes, hrun, hrest⟩ := exists_state_of_run_read hread
  have hcells : g.cells = s.grid.cells :=
    hrest (fun g => g.cells = s.grid.cells) (fun rels g l hg => (cells_attach rels g l).trans hg)
      (fun _ _ hg => hg) rfl
  refine ⟨es, hes, fun a v h => exists_readFrom hrun ?_⟩
  rw [Grid.value?, ← hcells]
  exact h

end Worksheet

/-! ## The values of a file -/

namespace WorkbookFile

variable {p : Package} {c : Common} {f : WorkbookFile}

/-- A sheet that the workbook lists refers to a part with these events. -/
def IsPartOf (p : Package) (c : Common) (sheet : SheetPart) (es : Markup.Events) : Prop :=
  ∃ id path, (sheet.name, id) ∈ c.part.sheets ∧ sheetPath? c.rels id = some path
    ∧ p.events? .kept path = some es

/-- **The sheets of a file hold what was read from cells of their parts.** -/
theorem exists_readFrom_of_mem {sheets : List (Option SheetPart)} {sheet : SheetPart} {g : Grid}
    (hsheets : (readSheets p c c.part.sheets).run = .ok (.ok sheets)) (hsheet : some sheet ∈ sheets)
    (hgrid : sheet.grid = .ok g) :
    ∃ es, IsPartOf p c sheet es
      ∧ ∀ a v, g.value? a = some v → ∃ cell, Worksheet.ReadFrom c.shared es.events cell a v := by
  obtain ⟨⟨name, id⟩, hentry, hread⟩ :=
    exists_of_forall₂_mem (Reading.run_mapM_eq_ok.mp hsheets) hsheet
  rw [run_readSheet] at hread
  cases hpath : sheetPath? c.rels id with
  | none =>
      rw [hpath] at hread
      cases hread
  | some path =>
      rw [hpath] at hread
      dsimp only at hread
      rcases hr : (Worksheet.read p c.shared path).run with fault | e | g'
      · rw [hr] at hread
        cases hread
      · rw [hr] at hread
        cases hread
        cases hgrid
      · rw [hr] at hread
        cases hread
        cases hgrid
        obtain ⟨es, hes, hvalues⟩ := Worksheet.exists_readFrom_of_run_read hr
        exact ⟨es, ⟨id, path, hentry, hpath, hes⟩, hvalues⟩

/--
**All numbers are kept as they should be, but for those without bounds.** In the sheets of an accepted
package each value was read from a cell of the part of its sheet. If it is an integer, this is exact as a
double; if it is a double, this is a finite number, and not one to be kept as an integer; and it is read
back from what is written of it. This is so if and only if the cell is not one of numbers with a text
that is read as an infinite or undefined double.
-/
theorem numbers_canonical_iff (h : (read p).run = .ok (.ok f)) :
    ∃ c, HasCommon p c ∧ ∀ sheet ∈ f.sheets, ∀ g, sheet.grid = .ok g →
      ∃ es, IsPartOf p c sheet es ∧ ∀ a v, g.value? a = some v →
        ∃ cell, Worksheet.ReadFrom c.shared es.events cell a v
          ∧ (v.Canonical ↔ ¬ cell.Unbounded)
          ∧ (CellValue.ofJson? v.toJson = some v ↔ ¬ cell.Unbounded) := by
  obtain ⟨c, sheets, hc, hsheets, rfl⟩ := run_read_eq_ok.mp h
  refine ⟨c, hc, fun sheet hsheet g hgrid => ?_⟩
  have hmem : some sheet ∈ sheets := by
    obtain ⟨x, hx, hsome⟩ := List.mem_filterMap.mp hsheet
    exact hsome ▸ hx
  obtain ⟨es, hpart, hvalues⟩ := exists_readFrom_of_mem hsheets hmem hgrid
  refine ⟨es, hpart, fun a v hv => ?_⟩
  obtain ⟨cell, hcell⟩ := hvalues a v hv
  exact ⟨cell, hcell, Worksheet.canonical_iff_of_run_value hcell.value⟩

/-! ## A cell without bounds -/

/-- A package with a sheet of two cells, of which only the second one has a number. -/
def boundless : Package where
  parts := [(contentTypesPath, Markup.bytes "<Types/>"),
    (WorkbookPart.path, Markup.bytes "<workbook><sheet name='A' r:id='x'/></workbook>"),
    (Package.relationshipsPath WorkbookPart.path, Markup.bytes ("<Relationships>"
      ++ "<Relationship Id='x' Target='a.xml' Type='/worksheet'/></Relationships>")),
    ("xl/a.xml", Markup.bytes ("<worksheet><c r='A1'><v>inf</v></c><c r='B1'><v>42.0</v></c>"
      ++ "</worksheet>"))]

/-- What tells the two cells apart: whether the first is a finite double, and the second as an integer. -/
def firstTwo (g : Grid) : Option Bool × Option Int :=
  ((g.value? ⟨0, 0⟩).bind fun
    | .float x => some (Binary64.isFinite x)
    | _ => none,
  (g.value? ⟨0, 1⟩).bind fun
    | .int n => some n
    | _ => none)

theorem read_boundless :
    ∃ f sheet g x, (read boundless).run = .ok (.ok f) ∧ sheet ∈ f.sheets ∧ sheet.grid = .ok g
      ∧ g.value? ⟨0, 0⟩ = some (.float x) ∧ Binary64.isFinite x = false
      ∧ g.value? ⟨0, 1⟩ = some (.int 42) := by
  have hread : ((read boundless).run.toOption.bind Except.toOption).map
      (fun f => f.sheets.map fun s => s.grid.toOption.map firstTwo)
        = some [some (some false, some 42)] := by
    decide +kernel
  obtain ⟨f, hf, hsheets⟩ := Option.map_eq_some_iff.mp hread
  obtain ⟨sheet, hsheet, hgrid⟩ := List.map_eq_singleton_iff.mp hsheets
  obtain ⟨g, hg, hcells⟩ := Option.map_eq_some_iff.mp hgrid
  have hgrid : sheet.grid = .ok g := by
    cases hs : sheet.grid with
    | error e =>
        rw [hs] at hg
        cases hg
    | ok g' =>
        rw [hs] at hg
        rw [Option.some.inj hg]
  obtain ⟨v, hv, hfirst⟩ := Option.bind_eq_some_iff.mp (congrArg Prod.fst hcells)
  obtain ⟨w, hw, hsecond⟩ := Option.bind_eq_some_iff.mp (congrArg Prod.snd hcells)
  have hmem : sheet ∈ f.sheets := hsheet ▸ List.mem_singleton_self _
  have hinteger : w = .int 42 := by
    cases w with
    | int n => exact congrArg CellValue.int (Option.some.inj hsecond)
    | bool b => cases hsecond
    | float x => cases hsecond
    | text s => cases hsecond
  cases v with
  | float x =>
      have hx : Binary64.isFinite x = false := Option.some.inj hfirst
      exact ⟨f, sheet, g, x, Reading.run_eq_ok_iff.mpr hf, hmem, hgrid, hv, hx, hinteger ▸ hw⟩
  | bool b => cases hfirst
  | int n => cases hfirst
  | text s => cases hfirst

/-- The second cell is one with bounds, since it has an integer that is exact. -/
theorem numbers_canonical_iff_boundless :
    ∃ f, (read boundless).run = .ok (.ok f) ∧ ∃ c sheet es cell, HasCommon boundless c
      ∧ sheet ∈ f.sheets ∧ IsPartOf boundless c sheet es
      ∧ Worksheet.ReadFrom c.shared es.events cell ⟨0, 1⟩ (.int 42) ∧ ¬ cell.Unbounded := by
  obtain ⟨f, sheet, g, _, hf, hsheet, hgrid, _, _, hvalue⟩ := read_boundless
  obtain ⟨c, hc, hsheets⟩ := numbers_canonical_iff hf
  obtain ⟨es, hpart, hvalues⟩ := hsheets sheet hsheet g hgrid
  obtain ⟨cell, hcell, hcanonical, _⟩ := hvalues _ _ hvalue
  have hexact : (CellValue.int 42).Canonical := by
    show (42 : Int).natAbs < 2 ^ 53
    decide
  exact ⟨f, hf, c, sheet, es, cell, hc, hsheet, hpart, hcell, hcanonical.mp hexact⟩

/-- **But the first is kept as a double that is no number**, and nothing is written for it. -/
theorem infinite_double_stored :
    ∃ f sheet g x, (read boundless).run = .ok (.ok f) ∧ sheet ∈ f.sheets ∧ sheet.grid = .ok g
      ∧ g.value? ⟨0, 0⟩ = some (.float x) ∧ ¬ (CellValue.float x).Canonical
      ∧ CellValue.ofJson? (CellValue.float x).toJson = none := by
  obtain ⟨f, sheet, g, x, hf, hsheet, hgrid, hvalue, hx, _⟩ := read_boundless
  refine ⟨f, sheet, g, x, hf, hsheet, hgrid, hvalue, fun hcanonical => ?_, ?_⟩
  · rw [hcanonical.1] at hx
    cases hx
  · exact CellValue.ofJson?_toJson_of_not_isFinite hx

end WorkbookFile

end Sheetwise
