import Sheetwise.Proofs.Sorted
import Sheetwise.Proofs.Spelling
import Sheetwise.Proofs.Worksheet
import Sheetwise.Proofs.Checked
import Sheetwise.Reported.Grid

/-!
# What holds of every grid

A grid keeps one map for each kind of fact, and nothing in its type ties them together. What ties them
is how grids are made. A cell that is given a value, a fill or a border is marked as being there; an
address that was read lies on the sheet; blank text is never stored; a fill comes from the styles of
the package, where it was checked.

The reader of a sheet marks a cell only after it has given it its fill and its border, so the facts do
not hold half way through a cell. They are therefore stated for the grid after a whole cell, whose
steps may be taken in any order because they change different maps.
-/

namespace Sheetwise

/-! ## The facts -/

/-- Six hexadecimal digits in upper case. -/
def Color.IsKey (s : String) : Prop :=
  s.toList.length = 6 ∧ ∀ c ∈ s.toList, ('0' ≤ c ∧ c ≤ '9') ∨ ('A' ≤ c ∧ c ≤ 'F')

namespace Grid

/-- All that is known is known of cells of the sheet. -/
structure OnSheet (g : Grid) : Prop where
  cells : ∀ a ∈ g.cells.keys, a.OnSheet
  links : ∀ a ∈ g.links.keys, a.OnSheet
  fills : ∀ a ∈ g.fills.keys, a.OnSheet
  styled : ∀ a ∈ g.styled.keys, a.OnSheet
  borders : ∀ a ∈ g.borders.keys, a.OnSheet

/-- Cells with a value, a fill or a border are there, and no value is blank. -/
structure Consistent (g : Grid) : Prop where
  cells : ∀ a ∈ g.cells.keys, a ∈ g.styled.keys
  fills : ∀ a ∈ g.fills.keys, a ∈ g.styled.keys
  borders : ∀ a ∈ g.borders.keys, a ∈ g.styled.keys
  notBlank : ∀ v ∈ g.cells.values, v.isEmpty = false

/-- All fills are colours of some kind. -/
def FilledWith (color : String → Prop) (g : Grid) : Prop := ∀ c ∈ g.fills.values, color c

/-- A consistent grid whose cells and links are at some places, and whose fills are some colours. -/
structure Sound (placed : Address → Prop) (color : String → Prop) (g : Grid) : Prop
    extends g.Consistent where
  styled : ∀ a ∈ g.styled.keys, placed a
  links : ∀ a ∈ g.links.keys, placed a
  colors : g.FilledWith color

variable {placed : Address → Prop} {color : String → Prop} {g : Grid} {a : Address}

theorem Sound.onSheet (h : g.Sound Address.OnSheet color) : g.OnSheet where
  cells a ha := h.styled a (h.cells a ha)
  links := h.links
  fills a ha := h.styled a (h.fills a ha)
  styled := h.styled
  borders a ha := h.styled a (h.borders a ha)

theorem sound_empty : (({} : Grid)).Sound placed color where
  cells _ ha := absurd ha List.not_mem_nil
  fills _ ha := absurd ha List.not_mem_nil
  borders _ ha := absurd ha List.not_mem_nil
  notBlank _ hv := absurd hv List.not_mem_nil
  styled _ ha := absurd ha List.not_mem_nil
  links _ ha := absurd ha List.not_mem_nil
  colors _ hc := absurd hc List.not_mem_nil

/-- Neither the sizes nor the declared tables matter. -/
theorem Sound.withRest (h : g.Sound placed color) (metrics : Metrics) (tables : List String) :
    { g with metrics, declaredTables := tables }.Sound placed color :=
  ⟨⟨h.cells, h.fills, h.borders, h.notBlank⟩, h.styled, h.links, h.colors⟩

theorem Sound.setStyled (h : g.Sound placed color) (ha : placed a) :
    (g.setStyled a).Sound placed color := by
  have hold {k : Address} (hk : k ∈ g.styled.keys) : k ∈ (g.setStyled a).styled.keys :=
    SortedSet.mem_keys_insert.mpr (.inr hk)
  refine ⟨⟨?_, ?_, ?_, h.notBlank⟩, ?_, h.links, h.colors⟩
  · exact fun k hk => hold (h.cells k hk)
  · exact fun k hk => hold (h.fills k hk)
  · exact fun k hk => hold (h.borders k hk)
  · intro k hk
    rcases SortedSet.mem_keys_insert.mp hk with rfl | hk
    · exact ha
    · exact h.styled k hk

/-- Putting a value marks the cell; a blank one leaves no value behind. -/
theorem Sound.setValue (h : g.Sound placed color) (ha : placed a) (v : CellValue) :
    (g.setValue a v).Sound placed color := by
  have hmarked := h.setStyled ha
  cases hblank : v.isEmpty with
  | true =>
      have heq : g.setValue a v = { g.setStyled a with cells := g.cells.erase a } := by
        unfold Grid.setValue
        rw [hblank]
        rfl
      rw [heq]
      refine ⟨⟨?_, hmarked.fills, hmarked.borders, ?_⟩, hmarked.styled, h.links, h.colors⟩
      · exact fun k hk => hmarked.cells k (SortedMap.keys_erase_subset _ _ hk)
      · exact fun w hw => h.notBlank w (SortedMap.values_erase_subset _ _ hw)
  | false =>
      have heq : g.setValue a v = { g.setStyled a with cells := g.cells.insert a v } := by
        unfold Grid.setValue
        rw [hblank]
        rfl
      rw [heq]
      refine ⟨⟨?_, hmarked.fills, hmarked.borders, ?_⟩, hmarked.styled, h.links, h.colors⟩
      · intro k hk
        rcases SortedMap.mem_keys_insert.mp hk with rfl | hk
        · exact SortedSet.mem_keys_insert.mpr (.inl rfl)
        · exact hmarked.cells k hk
      · intro w hw
        rcases SortedMap.mem_values_insert hw with rfl | hw
        · exact hblank
        · exact h.notBlank w hw

/-- A cell is marked as being there, or given a value. -/
inductive Marks (g : Grid) (a : Address) : Grid → Prop where
  | styled : g.Marks a (g.setStyled a)
  | value (v : CellValue) : g.Marks a (g.setValue a v)

theorem Sound.of_marks (h : g.Sound placed color) (ha : placed a) {marked : Grid}
    (hmarked : g.Marks a marked) : marked.Sound placed color := by
  cases hmarked with
  | styled => exact h.setStyled ha
  | value v => exact h.setValue ha v

theorem Marks.mem_styled {marked : Grid} (h : g.Marks a marked) : a ∈ marked.styled.keys := by
  have hthere : a ∈ (g.setStyled a).styled.keys := SortedSet.mem_keys_insert.mpr (.inl rfl)
  cases h with
  | styled => exact hthere
  | value v => exact hthere

theorem Sound.setFill (h : g.Sound placed color) (ha : a ∈ g.styled.keys) {c : String} (hc : color c) :
    (g.setFill a c).Sound placed color := by
  refine ⟨⟨h.cells, ?_, h.borders, h.notBlank⟩, h.styled, h.links, ?_⟩
  · intro k hk
    rcases SortedMap.mem_keys_insert.mp hk with rfl | hk
    · exact ha
    · exact h.fills k hk
  · intro c' hc'
    rcases SortedMap.mem_values_insert hc' with rfl | hc'
    · exact hc
    · exact h.colors c' hc'

theorem Sound.setBorder (h : g.Sound placed color) (ha : a ∈ g.styled.keys) :
    (g.setBorder a).Sound placed color := by
  refine ⟨⟨h.cells, h.fills, ?_, h.notBlank⟩, h.styled, h.links, h.colors⟩
  intro k hk
  rcases SortedSet.mem_keys_insert.mp hk with rfl | hk
  · exact ha
  · exact h.borders k hk

/-- A link does not make a cell be there. -/
theorem Sound.setLink (h : g.Sound placed color) (ha : placed a) (target : String) :
    (g.setLink a target).Sound placed color := by
  refine ⟨⟨h.cells, h.fills, h.borders, h.notBlank⟩, h.styled, ?_, h.colors⟩
  intro k hk
  rcases SortedMap.mem_keys_insert.mp hk with rfl | hk
  · exact ha
  · exact h.links k hk

/-- Once a cell is there, it may be given a fill and a border. -/
theorem Sound.decorate (h : g.Sound placed color) (ha : a ∈ g.styled.keys) (fill : Option String)
    (hfill : ∀ c ∈ fill, color c) (border : Bool) :
    (let g := match fill with
      | some c => g.setFill a c
      | none => g
     if border then g.setBorder a else g).Sound placed color := by
  have hfilled : (match fill with
      | some c => g.setFill a c
      | none => g).Sound placed color := by
    cases fill with
    | none => exact h
    | some c => exact h.setFill ha (hfill c rfl)
  cases border with
  | false => exact hfilled
  | true =>
      refine hfilled.setBorder ?_
      cases fill <;> exact ha

end Grid

/-! ## Reading a sheet -/

namespace Worksheet

open Markup

variable {placed : Address → Prop} {color : String → Prop} {shared : Shared} {g g' : Grid}
  {s s' : State}

/-- The colours that a sheet can be filled with. -/
def Shared.HasFill (shared : Shared) (c : String) : Prop := ∃ style ∈ shared.styles, style.fill = some c

theorem applyStyle_setValue (g : Grid) (a : Address) (style : CellStyle) (v : CellValue) :
    (applyStyle g a style).setValue a v = applyStyle (g.setValue a v) a style := by
  unfold applyStyle
  cases style.fill <;> cases style.hasBorder <;> rfl

theorem applyStyle_setStyled (g : Grid) (a : Address) (style : CellStyle) :
    (applyStyle g a style).setStyled a = applyStyle (g.setStyled a) a style := by
  unfold applyStyle
  cases style.fill <;> cases style.hasBorder <;> rfl

/-- What the style of a cell means. -/
def OpenCell.styleIn (shared : Shared) (cell : OpenCell) : CellStyle :=
  (cell.style.bind fun i => shared.styles[i]?).getD {}

/-- Puts into a cell what was read there, or marks it if that is nothing. -/
def mark (g : Grid) (a : Address) : Option CellValue → Grid
  | some v => g.setValue a v
  | none => g.setStyled a

/-- Putting a cell into the grid marks it or gives it a value, and applies its style. -/
theorem run_put_eq_ok {cell : OpenCell} : (put shared g cell).run = .ok (.ok g')
    ↔ ∃ a v, Address.parse cell.reference = .ok a
      ∧ (value shared (cell.styleIn shared).isDate cell).run = .ok (.ok v)
      ∧ g' = applyStyle (mark g a v) a (cell.styleIn shared) := by
  unfold put
  rcases ha : Address.parse cell.reference with e | a
  · refine iff_of_false (fun h => by cases h) fun hgiven => ?_
    obtain ⟨a, _, h, _⟩ := hgiven
    cases h
  · dsimp only
    rw [pure_bind, Reading.run_bind_eq_ok]
    constructor
    · intro hgiven
      obtain ⟨v, hv, h⟩ := hgiven
      cases v with
      | none =>
          cases h
          exact ⟨a, none, rfl, hv, applyStyle_setStyled _ _ _⟩
      | some v =>
          cases h
          exact ⟨a, some v, rfl, hv, applyStyle_setValue _ _ _ _⟩
    · intro hgiven
      obtain ⟨a', v, hplaced, hv, rfl⟩ := hgiven
      cases hplaced
      refine ⟨v, hv, ?_⟩
      cases v with
      | none => exact congrArg (fun g => Except.ok (Except.ok g)) (applyStyle_setStyled _ _ _)
      | some v => exact congrArg (fun g => Except.ok (Except.ok g)) (applyStyle_setValue _ _ _ _)

theorem marks_mark (g : Grid) (a : Address) (v : Option CellValue) : g.Marks a (mark g a v) := by
  cases v with
  | none => exact .styled
  | some v => exact .value v

theorem hasFill_of_style {style : Option Nat} {c : String}
    (h : c ∈ ((style.bind fun i => shared.styles[i]?).getD {}).fill) : shared.HasFill c := by
  cases hstyle : style.bind fun i => shared.styles[i]? with
  | none =>
      rw [hstyle] at h
      cases h
  | some x =>
      rw [hstyle] at h
      obtain ⟨i, _, hi⟩ := Option.bind_eq_some_iff.mp hstyle
      exact ⟨x, List.mem_of_getElem? hi, h⟩

theorem sound_put (hg : g.Sound Address.OnSheet shared.HasFill) {cell : OpenCell}
    (h : (put shared g cell).run = .ok (.ok g')) : g'.Sound Address.OnSheet shared.HasFill := by
  obtain ⟨a, v, ha, _, rfl⟩ := run_put_eq_ok.mp h
  have hmarked := marks_mark g a v
  have hsound := hg.of_marks (Address.onSheet_of_ofChars ha) hmarked
  exact hsound.decorate hmarked.mem_styled _ (fun _ => hasFill_of_style) _

/-- An event at which all of a cell has been read: the end of its element, or the element itself. -/
inductive Completes (s : State) : Event → OpenCell → Prop where
  | closing {cell : OpenCell} : s.cell = some cell → Completes s (.closing "c") cell
  | selfClosing {e : Element} {cell : OpenCell} : e.name = "c" → openCell? e = some cell →
      Completes s (.selfClosing e) cell

/-- What an event does to the grid: it may set sizes, and it may put the cell that it completes. -/
inductive Changes (shared : Shared) (s : State) (ev : Event) : Grid → Prop where
  | sizes (metrics : Metrics) : Changes shared s ev { s.grid with metrics }
  | cell {cell : OpenCell} {g' : Grid} : Completes s ev cell →
      (put shared s.grid cell).run = .ok (.ok g') → Changes shared s ev g'

theorem Changes.refl (shared : Shared) (s : State) (ev : Event) : Changes shared s ev s.grid :=
  .sizes s.grid.metrics

theorem changes_start {e : Element} {staysOpen : Bool}
    (h : (start shared s e staysOpen).run = .ok (.ok s')) :
    Changes shared s (if staysOpen then .opening e else .selfClosing e) s'.grid := by
  unfold start at h
  dsimp only at h
  split at h
  case h_1 | h_2 | h_3 =>
    cases h
    exact .sizes _
  case h_4 hname =>
    -- a cell that is its own end is put at once
    cases staysOpen with
    | true =>
        cases h
        exact .refl shared s _
    | false =>
        rw [if_neg Bool.false_ne_true] at h ⊢
        split at h
        · next cell hcell =>
          obtain ⟨g, hg, h⟩ := Reading.run_bind_eq_ok.mp h
          cases h
          exact .cell (.selfClosing hname hcell) hg
        · cases h
          exact .refl shared s _
  case h_5 | h_6 | h_7 =>
    cases h
    split <;> split <;> exact .refl shared s _
  case h_8 | h_9 =>
    split at h <;> cases h <;> exact .refl shared s _
  case h_10 =>
    cases h
    exact .refl shared s _

theorem changes_finish {name : String} (h : (finish shared s name).run = .ok (.ok s')) :
    Changes shared s (.closing name) s'.grid := by
  unfold finish at h
  split at h
  case h_1 =>
    cases hcell : s.cell with
    | none =>
        rw [hcell] at h
        cases h
        exact .refl shared s _
    | some cell =>
        rw [hcell] at h
        obtain ⟨g, hg, h⟩ := Reading.run_bind_eq_ok.mp h
        cases h
        exact .cell (.closing hcell) hg
  case h_2 | h_3 | h_4 | h_5 =>
    cases h
    exact .refl shared s _

theorem changes_step {ev : Event} (h : (step shared s ev).run = .ok (.ok s')) :
    Changes shared s ev s'.grid := by
  cases ev with
  | opening e => exact changes_start h
  | selfClosing e => exact changes_start h
  | closing name => exact changes_finish h
  | text t =>
      obtain rfl := Except.ok.inj (Except.ok.inj h)
      split <;> exact .refl shared s _

theorem sound_step (hs : s.grid.Sound Address.OnSheet shared.HasFill) {ev : Event}
    (h : (step shared s ev).run = .ok (.ok s')) : s'.grid.Sound Address.OnSheet shared.HasFill := by
  have hchanges := changes_step h
  generalize s'.grid = g' at hchanges
  cases hchanges with
  | sizes metrics => exact hs.withRest metrics _
  | cell _ hput => exact sound_put hs hput

/-- **Whatever the events of a part are**, the grid is sound when they have been read. -/
theorem sound_of_foldlM {es : List Event} (h : (es.foldlM (step shared) {}).run = .ok (.ok s)) :
    s.grid.Sound Address.OnSheet shared.HasFill :=
  Reading.run_foldlM_preserves (P := fun s => s.grid.Sound Address.OnSheet shared.HasFill)
    (fun _ _ _ hs hstep => sound_step hs hstep) Grid.sound_empty h

theorem sound_attach (hg : g.Sound Address.OnSheet color) (rels : Relationships) (l : OpenLink) :
    (attach rels g l).Sound Address.OnSheet color := by
  unfold attach
  split
  · next b target hb _ => exact hg.setLink (Rect.onSheet_first (Reference.onSheet_of_rect? hb)) target
  · exact hg

/-- A table is added to those that are declared, and to nothing else. -/
theorem addTable_eq {p : Package} {path : String} {rels : Relationships} {id : String}
    (h : (addTable p path rels g id).run = .ok (.ok g')) :
    ∃ tables, g' = { g with declaredTables := tables } := by
  unfold addTable at h
  split at h
  · cases h
    exact ⟨g.declaredTables, rfl⟩
  · split at h
    · cases h
      exact ⟨g.declaredTables, rfl⟩
    · dsimp only at h
      split at h
      · cases h
        exact ⟨g.declaredTables, rfl⟩
      · obtain ⟨reference, _, h⟩ := Reading.run_bind_eq_ok.mp h
        cases reference with
        | none =>
            cases h
            exact ⟨g.declaredTables, rfl⟩
        | some reference =>
            cases h
            exact ⟨_, rfl⟩

/-- What the events of a part leave behind is the grid, but for links and tables that are added to it. -/
theorem exists_state_of_run_read {p : Package} {path : String}
    (h : (read p shared path).run = .ok (.ok g)) :
    ∃ es s, p.events? .kept path = some es ∧ (es.events.foldlM (step shared) {}).run = .ok (.ok s)
      ∧ ∀ P : Grid → Prop, (∀ rels g l, P g → P (attach rels g l)) →
        (∀ g tables, P g → P { g with declaredTables := tables }) → P s.grid → P g := by
  unfold read at h
  cases hes : p.events? .kept path with
  | none =>
      rw [hes] at h
      cases h
  | some es =>
      rw [hes] at h
      obtain ⟨s, hs, h⟩ := Reading.run_bind_eq_ok.mp h
      have hrun : (es.events.foldlM (step shared) {}).run = .ok (.ok s) := by
        unfold ofEvents at hs
        obtain ⟨s', hs', hs⟩ := Reading.run_bind_eq_ok.mp hs
        obtain ⟨_, _, hs⟩ := Reading.run_bind_eq_ok.mp hs
        cases hs
        exact hs'
      refine ⟨es, s, rfl, hrun, fun P hlink htable hP => ?_⟩
      split at h
      · cases h
        exact hP
      · obtain ⟨rels, _, h⟩ := Reading.run_bind_eq_ok.mp h
        have hlinked : P (s.links.foldl (attach (rels.getD ∅)) s.grid) :=
          List.foldlRecOn (motive := fun g => P g) s.links _ hP fun g hg l _ => hlink _ g l hg
        refine Reading.run_foldlM_preserves (P := P) (fun _ _ _ hg hadd => ?_) hlinked h
        obtain ⟨tables, rfl⟩ := addTable_eq hadd
        exact htable _ tables hg

/-- **Every sheet that can be read is sound.** -/
theorem sound_of_run_read {p : Package} {path : String}
    (h : (read p shared path).run = .ok (.ok g)) : g.Sound Address.OnSheet shared.HasFill := by
  obtain ⟨es, s, -, hs, hrest⟩ := exists_state_of_run_read h
  exact hrest (fun g => g.Sound Address.OnSheet shared.HasFill) (fun rels _ l hg => sound_attach hg rels l)
    (fun g tables hg => hg.withRest g.metrics tables) (sound_of_foldlM hs)

end Worksheet

/-! ## The colours of styles -/

namespace Color

/-- What is in front of what follows two bytes takes two bytes. -/
theorem eq_append_of_afterTwoBytes? {cs rest : List Char} (h : afterTwoBytes? cs = some rest) :
    ∃ front, cs = front ++ rest ∧ Text.utf8Length front = 2 := by
  cases cs with
  | nil => cases h
  | cons a cs =>
      unfold afterTwoBytes? at h
      dsimp only at h
      by_cases ha : a.utf8Size = 2
      · rw [if_pos ha] at h
        cases h
        exact ⟨[a], rfl, by rw [Text.utf8Length_cons, ha]; rfl⟩
      · rw [if_neg ha] at h
        cases cs with
        | nil => cases h
        | cons b cs =>
            dsimp only at h
            split at h
            · next hab =>
              cases h
              exact ⟨[a, b], rfl, by rw [Text.utf8Length_cons, Text.utf8Length_cons, hab.1, hab.2]; rfl⟩
            · cases h

theorem isHexDigit_iff {c : Char} : Text.isHexDigit c = true
    ↔ ('0' ≤ c ∧ c ≤ '9') ∨ ('a' ≤ c ∧ c ≤ 'f') ∨ ('A' ≤ c ∧ c ≤ 'F') := by
  unfold Text.isHexDigit Text.hexValue?
  split_ifs <;> simp [*]

theorem toNat_le_of_isHexDigit {c : Char} (h : Text.isHexDigit c = true) : c.toNat ≤ 102 := by
  simp only [isHexDigit_iff, Char.le_def, UInt32.le_iff_toNat_le] at h
  rcases h with ⟨_, h⟩ | ⟨_, h⟩ | ⟨_, h⟩ <;> exact h.trans (by decide)

theorem toUpper_of_isHexDigit {c : Char} (h : Text.isHexDigit c = true) :
    ('0' ≤ c.toUpper ∧ c.toUpper ≤ '9') ∨ ('A' ≤ c.toUpper ∧ c.toUpper ≤ 'F') := by
  have hall : ∀ n < 103, Text.isHexDigit (Char.ofNat n) = true →
      ('0' ≤ (Char.ofNat n).toUpper ∧ (Char.ofNat n).toUpper ≤ '9')
        ∨ ('A' ≤ (Char.ofNat n).toUpper ∧ (Char.ofNat n).toUpper ≤ 'F') := by decide
  have hc := hall c.toNat (Nat.lt_succ_of_le (toNat_le_of_isHexDigit h))
  rw [Char.ofNat_toNat] at hc
  exact hc h

/-- Six hexadecimal digits make a key. -/
theorem isKey_of_digits {cs : List Char} {key : String} (hlength : Text.utf8Length cs = 6)
    (h : (if cs.all Text.isHexDigit then some (String.ofList (cs.map Char.toUpper)) else none)
      = some key) : IsKey key := by
  split at h
  · next hall =>
    cases h
    rw [List.all_eq_true] at hall
    have hbytes := Text.utf8Length_eq_length fun c hc =>
      (toNat_le_of_isHexDigit (hall c hc)).trans (by decide)
    unfold IsKey
    rw [String.toList_ofList, List.length_map, ← hbytes]
    refine ⟨hlength, ?_⟩
    intro c hc
    obtain ⟨d, hd, rfl⟩ := List.mem_map.mp hc
    exact toUpper_of_isHexDigit (hall d hd)
  · cases h

/-- **A colour that was read is a key.** -/
theorem isKey_of_ofHex? {s key : String} (h : ofHex? s = .ok (some key)) : IsKey key := by
  unfold ofHex? at h
  dsimp only at h
  split at h
  · next hlength =>
    cases hcut : afterTwoBytes? (bare s) with
    | none =>
        rw [hcut] at h
        cases h
    | some rest =>
        rw [hcut] at h
        obtain ⟨front, hbare, hfront⟩ := eq_append_of_afterTwoBytes? hcut
        rw [hbare, Text.utf8Length_append] at hlength
        exact isKey_of_digits (by omega) (Except.ok.inj h)
  · next hlength => exact isKey_of_digits hlength (Except.ok.inj h)
  · cases h

end Color

namespace Styles

open Markup

/-- All colours read so far are keys. -/
def State.Colored (s : State) : Prop := ∀ f ∈ s.fills, ∀ c ∈ f.color, Color.IsKey c

variable {s s' : State}

theorem colored_changeFirst {fills : List Fill} (h : ∀ f ∈ fills, ∀ c ∈ f.color, Color.IsKey c)
    {change : Fill → Fill} (hchange : ∀ f ∈ fills, ∀ c ∈ (change f).color, Color.IsKey c) :
    ∀ f ∈ changeFirst change fills, ∀ c ∈ f.color, Color.IsKey c := by
  cases fills with
  | nil => exact h
  | cons f fills =>
      intro f' hf'
      rcases List.mem_cons.mp hf' with rfl | hf'
      · exact hchange f List.mem_cons_self
      · exact h f' (List.mem_cons_of_mem _ hf')

theorem colored_fillColor (hs : s.Colored) {e : Element} (h : fillColor s e = .ok s') :
    s'.Colored := by
  have hset {color : Option String} (hcolor : ∀ c ∈ color, Color.IsKey c) :
      { s with fills := changeFirst (fun f => { f with color }) s.fills }.Colored :=
    colored_changeFirst hs fun _ _ => hcolor
  unfold fillColor at h
  split at h
  · cases h
    exact hs
  · dsimp only at h
    split at h
    · obtain ⟨color, hcolor, h⟩ := Checked.bind_eq_ok.mp h
      cases h
      refine hset fun c hc => ?_
      cases hc
      exact Color.isKey_of_ofHex? hcolor
    · cases h
      exact hset fun c hc => by cases hc

theorem fills_numberFormat (s : State) (e : Element) : (numberFormat s e).fills = s.fills := by
  unfold numberFormat
  split <;> rfl

theorem fills_side (s : State) (e : Element) : (side s e).fills = s.fills := by
  unfold side
  split
  · split <;> rfl
  · rfl

theorem colored_start (hs : s.Colored) {e : Element} {staysOpen : Bool}
    (h : start s e staysOpen = .ok s') : s'.Colored := by
  have hkept {s₁ : State} (hfills : s₁.fills = s.fills) : s₁.Colored := by
    unfold State.Colored
    rw [hfills]
    exact hs
  unfold start at h
  split at h
  case h_6 =>
    -- a new fill has no colour yet
    cases h
    split
    · intro f hf
      rcases List.mem_cons.mp hf with rfl | hf
      · intro c hc
        cases hc
      · exact hs f hf
    · exact hs
  case h_7 =>
    cases h
    split
    · exact colored_changeFirst hs fun f hf => hs f hf
    · exact hs
  case h_8 =>
    split at h
    · exact colored_fillColor hs h
    · cases h
      exact hs
  case h_1 =>
    cases h
    split
    · exact hs
    · exact hkept (fills_numberFormat s e)
  case h_11 =>
    cases h
    split
    · exact hkept (fills_side s e)
    · exact hs
  case h_9 | h_10 =>
    cases h
    split
    · exact hkept rfl
    · exact hs
  all_goals
    cases h
    exact hkept rfl

theorem colored_step (hs : s.Colored) {ev : Event} (h : step s ev = .ok s') : s'.Colored := by
  cases ev with
  | opening e => exact colored_start hs h
  | selfClosing e => exact colored_start hs h
  | closing name =>
      cases h
      show (finish s name).Colored
      unfold finish
      split <;> exact hs
  | text t =>
      cases h
      exact hs

/-- **The styles of a package fill cells with keys only.** -/
theorem isKey_of_run_read {p : Package} {styles : List CellStyle}
    (h : (read p).run = .ok (.ok styles)) : ∀ style ∈ styles, ∀ c ∈ style.fill, Color.IsKey c := by
  unfold read at h
  split at h
  · cases h
    exact fun style hstyle => absurd hstyle List.not_mem_nil
  · next es _ =>
    obtain ⟨_, hstyles, h⟩ := Reading.run_bind_eq_ok.mp h
    obtain ⟨_, _, h⟩ := Reading.run_bind_eq_ok.mp h
    cases h
    obtain ⟨s, hs, h⟩ := Checked.bind_eq_ok.mp (Reading.run_lift_eq_ok.mp hstyles)
    cases h
    have hcolored : s.Colored :=
      Checked.foldlM_preserves (fun _ _ _ hs hstep => colored_step hs hstep)
        (fun f hf => absurd hf List.not_mem_nil) hs
    intro style hstyle c hc
    obtain ⟨x, _, rfl⟩ := List.mem_map.mp hstyle
    obtain ⟨f, hf, hfill⟩ := Option.bind_eq_some_iff.mp hc
    have hmem : f ∈ s.fills := List.mem_reverse.mp (List.mem_of_getElem? hf)
    unfold Fill.color? at hfill
    split at hfill
    · cases hfill
    · cases hfill
    · cases hfill
    · exact hcolored f hmem c hfill

end Styles

/-! ## Reported ranges -/

namespace Reported

open Grid

variable {g : Grid}

theorem Value.marks_put (v : Value) (g : Grid) (a : Address) : g.Marks a (v.put g a) := by
  cases v with
  | null => exact .styled
  | bool b => exact .value _
  | number x => exact .value _
  | text s => exact .value _
  | error code => exact .value _

/-- The application may report any cell, even beyond a sheet, and any text as a colour. -/
theorem sound_cell_put (hg : g.Sound (fun _ => True) (fun _ => True)) (c : Cell) :
    (c.put g).Sound (fun _ => True) (fun _ => True) := by
  have hmarked := c.value.marks_put g (place c.row c.col)
  have hsound := hg.of_marks trivial hmarked
  unfold Cell.put
  cases c.fill with
  | none => exact hsound.decorate hmarked.mem_styled none (fun _ _ => trivial) c.border
  | some fill =>
      exact hsound.decorate hmarked.mem_styled (some (Text.upper fill)) (fun _ _ => trivial) c.border

/-- **Every reported range is consistent.** -/
theorem consistent_grid (u : UsedRange) : u.grid.Consistent := by
  have hcells : (u.cells.foldl Cell.put {}).Sound (fun _ => True) (fun _ => True) :=
    List.foldlRecOn u.cells _ sound_empty fun _ hg c _ => sound_cell_put hg c
  have hlinks : (u.links.foldl (fun g l => g.setLink (place l.row l.col) l.target)
      (u.cells.foldl Cell.put {})).Sound (fun _ => True) (fun _ => True) :=
    List.foldlRecOn u.links _ hcells fun _ hg l _ => hg.setLink trivial l.target
  exact (hlinks.withRest _ _).toConsistent

end Reported

/-! ## All grids -/

namespace Grid

/--
**What holds of every grid.** Whatever part a sheet is read from, with whatever shared strings and
styles, all that is known is known of cells of the sheet; cells with a value, a fill or a border are
there; no value is blank; and with the styles of a package, all fills are keys. The same, but for the
places and the colours, holds of every reported range.
-/
theorem represented :
    (∀ (p : Package) (shared : Worksheet.Shared) (path : String) (g : Grid),
      (Worksheet.read p shared path).run = .ok (.ok g) → g.OnSheet ∧ g.Consistent
        ∧ ∀ q : Package, (Styles.read q).run = .ok (.ok shared.styles) → g.FilledWith Color.IsKey)
      ∧ ∀ u : Reported.UsedRange, u.grid.Consistent := by
  refine ⟨?_, Reported.consistent_grid⟩
  intro p shared path g h
  have hsound := Worksheet.sound_of_run_read h
  refine ⟨hsound.onSheet, hsound.toConsistent, ?_⟩
  intro q hq c hc
  obtain ⟨style, hstyle, hfill⟩ := hsound.colors c hc
  exact Styles.isKey_of_run_read hq style hstyle c hfill

/-- A package with a painted cell, which comes twice, and a link on a cell that is not there. -/
def paintedTwice : Package where
  parts := [
    ("xl/styles.xml", Markup.bytes ("<styleSheet><fills><fill><patternFill patternType='solid'>"
      ++ "<fgColor rgb='ff00b0f0'/></patternFill></fill></fills>"
      ++ "<cellXfs><xf fillId='0'/></cellXfs></styleSheet>")),
    ("xl/a.xml", Markup.bytes ("<worksheet><c r='B2' s='0'><v>1</v></c><c r='B2' t='str'><v> </v></c>"
      ++ "<hyperlink ref='D4:E5' location='A1'/></worksheet>"))]

theorem represented_painted_twice :
    ∃ styles g, (Styles.read paintedTwice).run = .ok (.ok styles)
      ∧ (Worksheet.read paintedTwice ⟨[], styles, .from1900⟩ "xl/a.xml").run = .ok (.ok g)
      ∧ g.cells.keys = [] ∧ g.fills.values = ["00B0F0"]
      ∧ g.OnSheet ∧ g.Consistent ∧ g.FilledWith Color.IsKey := by
  have hstyles : (Styles.read paintedTwice).run = .ok (.ok [⟨false, some "00B0F0", false⟩]) :=
    Reading.run_eq_ok_iff.mpr (by decide +kernel)
  have hread : ((Worksheet.read paintedTwice ⟨[], [⟨false, some "00B0F0", false⟩], .from1900⟩
      "xl/a.xml").run.toOption.bind Except.toOption).map (fun g => (g.cells.keys, g.fills.values))
        = some ([], ["00B0F0"]) := by
    decide +kernel
  obtain ⟨g, hg, hmaps⟩ := Option.map_eq_some_iff.mp hread
  have hg := Reading.run_eq_ok_iff.mpr hg
  obtain ⟨honSheet, hconsistent, hcolors⟩ := represented.1 _ _ _ g hg
  exact ⟨_, g, hstyles, hg, congrArg Prod.fst hmaps, congrArg Prod.snd hmaps, honSheet, hconsistent,
    hcolors _ hstyles⟩

end Grid

end Sheetwise
