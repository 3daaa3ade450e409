import Sheetwise.Proofs.RichText
import Sheetwise.Proofs.Sorted
import Sheetwise.Proofs.Worksheet

/-!
# The same text in a cell and among the shared strings

A cell either refers to one of the shared strings or holds its text itself. Either way the text is rich
text, but each way has a reader of its own, and the two do not agree about phonetic runs: the reader of
the shared strings passes over what is in these, and the reader of the sheet takes it for text.

So a text is shown the same from both places exactly if it makes no difference whether its phonetic runs
are read.
-/

namespace Sheetwise

open Markup

namespace Worksheet

variable {shared : Shared}

/-! ## The text in a cell -/

/-- The reader inside the text that a cell keeps itself. -/
def State.inside (s : State) (cell : OpenCell) (inText : Bool) : State :=
  { s with cell := some cell, inValue := false, inInline := true, inInlineText := inText }

theorem foldlM_step_cons {s s' : State} {ev : Event} (h : step shared s ev = pure s')
    (es : List Event) : (ev :: es).foldlM (step shared) s = es.foldlM (step shared) s' := by
  rw [List.foldlM_cons, h, pure_bind]

theorem foldlM_step_singleton (s : State) (ev : Event) :
    [ev].foldlM (step shared) s = step shared s ev := by
  rw [List.foldlM_cons]
  exact bind_pure _

theorem foldlM_step_append {s s' : State} {es : List Event}
    (h : es.foldlM (step shared) s = pure s') (es' : List Event) :
    (es ++ es').foldlM (step shared) s = es'.foldlM (step shared) s' := by
  rw [List.foldlM_append, h, pure_bind]

theorem run_foldlM_append {s s' : State} {es es' : List Event}
    (h : (es.foldlM (step shared) {}).run = .ok (.ok s))
    (h' : es'.foldlM (step shared) s = pure s') :
    ((es ++ es').foldlM (step shared) {}).run = .ok (.ok s') := by
  rw [List.foldlM_append]
  exact Reading.run_bind_eq_ok.mpr ⟨s, h, congrArg ExceptT.run h'⟩

theorem foldlM_step_pieces (s : State) (cell : OpenCell) (pieces : List String) :
    (pieces.map Event.text).foldlM (step shared) (s.inside cell true)
      = pure (s.inside { cell with inline := cell.inline ++ String.join pieces } true) := by
  induction pieces generalizing cell with
  | nil =>
      rw [String.join_nil, String.append_empty]
      rfl
  | cons p pieces ih =>
      rw [List.map_cons, String.join_cons, ← String.append_assoc]
      exact (foldlM_step_cons rfl _).trans (ih { cell with inline := cell.inline ++ p })

theorem start_of_notMem {e : Element} (h : e.name ∉ "t" :: RichText.reserved) (s : State)
    (staysOpen : Bool) : start shared s e staysOpen = pure s := by
  unfold start
  dsimp only
  split
  case h_10 => rfl
  all_goals
    rename_i hname
    simp [RichText.reserved, hname] at h

theorem step_closing_of_notMem {name : String} (h : name ∉ "t" :: RichText.reserved) (s : State) :
    step shared s (.closing name) = pure s := by
  show finish shared s name = pure s
  unfold finish
  split
  case h_5 => rfl
  all_goals simp [RichText.reserved] at h

/-- **Of rich text, all that is text goes into a cell, phonetic runs included.** -/
theorem foldlM_step_events (shared : Shared) {b : Bool} (x : RichText b) (s : State)
    (cell : OpenCell) :
    x.events.foldlM (step shared) (s.inside cell false)
      = pure (s.inside { cell with inline := cell.inline ++ x.chars true } false) := by
  -- by induction on the pieces; after each of them the reader is in no text element
  induction x generalizing cell with
  | nil => rw [RichText.chars, String.append_empty]; rfl
  | between t rest ih => exact ih cell
  | @text b attributes pieces rest ih =>
      have hpieces : (if b && !true then "" else String.join pieces) = String.join pieces := by
        rw [Bool.not_true, Bool.and_false]
        rfl
      have hopen : step shared (s.inside cell false) (.opening ⟨"t", attributes⟩)
          = pure (s.inside cell true) := rfl
      rw [RichText.events, foldlM_step_cons hopen, foldlM_step_append (foldlM_step_pieces _ _ _),
        RichText.chars, hpieces, ← String.append_assoc]
      exact (foldlM_step_cons rfl _).trans (ih _)
  | lone e h rest ih =>
      have hlone : step shared (s.inside cell false) (.selfClosing e) = pure (s.inside cell false) := by
        show start shared _ e false = _
        by_cases ht : e.name = "t"
        · -- an empty text element is not entered
          unfold start
          rw [ht]
          rfl
        · exact start_of_notMem (fun hmem => h ((List.mem_cons.mp hmem).resolve_left ht)) _ _
      exact (foldlM_step_cons hlone _).trans (ih cell)
  | around e h inside rest ihInside ihRest =>
      have hname : e.name ∉ "t" :: RichText.reserved :=
        fun hmem => h (List.cons_subset_cons _ (List.subset_cons_self _ _) hmem)
      have hopen : step shared (s.inside cell false) (.opening e) = pure (s.inside cell false) :=
        start_of_notMem hname _ _
      rw [RichText.events, foldlM_step_cons hopen, foldlM_step_append (ihInside cell),
        foldlM_step_cons (step_closing_of_notMem hname _), ihRest, RichText.chars, String.append_assoc]
  | aloud attributes inside rest ihInside ihRest =>
      -- this reader does not know phonetic runs and goes on inside
      have hopen : step shared (s.inside cell false) (.opening ⟨"rPh", attributes⟩)
          = pure (s.inside cell false) := rfl
      rw [RichText.events, foldlM_step_cons hopen, foldlM_step_append (ihInside cell),
        RichText.chars, ← String.append_assoc]
      exact (foldlM_step_cons rfl _).trans (ihRest _)

/-! ## Between cells -/

/-- The reader between two cells. -/
structure AtRest (s : State) : Prop where
  cell : s.cell = none
  inValue : s.inValue = false
  inInline : s.inInline = false
  inInlineText : s.inInlineText = false

variable {s : State} {cell : OpenCell}

theorem atRest_start {e : Element} {staysOpen : Bool} {s' : State} (h : AtRest s)
    (hname : staysOpen = true → e.name ≠ "c")
    (hrun : (start shared s e staysOpen).run = .ok (.ok s')) : AtRest s' := by
  obtain ⟨grid, _, _, _, _, links, tableIds⟩ := s
  obtain ⟨rfl, rfl, rfl, rfl⟩ := h
  unfold start at hrun
  dsimp only at hrun
  split at hrun
  case h_4 hc =>
    -- a cell that is its own end is put into the grid at once
    cases staysOpen with
    | true => exact absurd hc (hname rfl)
    | false =>
        rw [if_neg Bool.false_ne_true] at hrun
        split at hrun
        · obtain ⟨g, _, hg⟩ := Reading.run_bind_eq_ok.mp hrun
          cases hg
          exact ⟨rfl, rfl, rfl, rfl⟩
        · cases hrun
          exact ⟨rfl, rfl, rfl, rfl⟩
  case h_8 | h_9 =>
    split at hrun <;> cases hrun <;> exact ⟨rfl, rfl, rfl, rfl⟩
  all_goals
    cases hrun
    exact ⟨rfl, rfl, rfl, rfl⟩

theorem atRest_closing_cell {s' : State} (hrun : (step shared s (.closing "c")).run = .ok (.ok s')) :
    AtRest s' := by
  have hstep : step shared s (.closing "c")
      = (s.cell.elim (pure s.grid) (put shared s.grid)) >>= fun g =>
        pure { grid := g, links := s.links, tableIds := s.tableIds } := by
    show finish shared s "c" = _
    unfold finish
    cases s.cell <;> rfl
  rw [hstep] at hrun
  obtain ⟨g, _, hg⟩ := Reading.run_bind_eq_ok.mp hrun
  cases hg
  exact ⟨rfl, rfl, rfl, rfl⟩

theorem atRest_step {ev : Event} {s' : State} (h : AtRest s)
    (hev : ∀ e, ev = .opening e → e.name ≠ "c")
    (hrun : (step shared s ev).run = .ok (.ok s')) : AtRest s' := by
  obtain ⟨grid, _, _, _, _, links, tableIds⟩ := s
  obtain ⟨rfl, rfl, rfl, rfl⟩ := h
  have hrest : AtRest ⟨grid, none, false, false, false, links, tableIds⟩ := ⟨rfl, rfl, rfl, rfl⟩
  cases ev with
  | opening e => exact atRest_start hrest (fun _ => hev e rfl) hrun
  | selfClosing e => exact atRest_start hrest (fun hopen => absurd hopen (by decide)) hrun
  | closing name =>
      by_cases hc : name = "c"
      · subst hc
        exact atRest_closing_cell hrun
      · have hfinish : (finish shared ⟨grid, none, false, false, false, links, tableIds⟩ name).run
            = .ok (.ok s') := hrun
        unfold finish at hfinish
        split at hfinish
        · exact absurd rfl hc
        all_goals
          cases hfinish
          exact hrest
  | text t =>
      cases hrun
      exact hrest

/-- Where no cell is left open, the reader is between two cells. -/
theorem atRest_of_closed {es : List Event} (h : Closed "c" es)
    (hrun : (es.foldlM (step shared) {}).run = .ok (.ok s)) : AtRest s := by
  induction h generalizing s with
  | nil =>
      cases hrun
      exact ⟨rfl, rfl, rfl, rfl⟩
  | closing es =>
      -- whatever came before, the end of a cell leaves none open
      rw [List.foldlM_append] at hrun
      obtain ⟨s', _, hlast⟩ := Reading.run_bind_eq_ok.mp hrun
      rw [foldlM_step_singleton] at hlast
      exact atRest_closing_cell hlast
  | other _ hev ih =>
      rw [List.foldlM_append] at hrun
      obtain ⟨s', hes, hlast⟩ := Reading.run_bind_eq_ok.mp hrun
      rw [foldlM_step_singleton] at hlast
      exact atRest_step (ih hes) hev hlast

/-! ## What is put into the grid -/

/-- What is seen of a text in a cell. -/
def seen (t : String) : Option CellValue := if Text.isBlankText t then none else some (.text t)

theorem seen_eq_iff {t t' : String} : seen t = seen t'
    ↔ t = t' ∨ Text.isBlankText t = true ∧ Text.isBlankText t' = true := by
  by_cases h : t = t'
  · exact iff_of_true (congrArg seen h) (.inl h)
  · unfold seen
    cases Text.isBlankText t <;> cases Text.isBlankText t' <;> simp [h]

theorem setValue_text (g : Grid) (a : Address) (t : String) :
    g.setValue a (.text t)
      = { g with
          styled := SortedSet.insert g.styled a
          cells := match seen t with
            | none => g.cells.erase a
            | some v => g.cells.insert a v } := by
  have hcells : (if Text.isBlankText t = true then g.cells.erase a else g.cells.insert a (.text t))
      = match seen t with
        | none => g.cells.erase a
        | some v => g.cells.insert a v := by
    unfold seen
    cases Text.isBlankText t <;> rfl
  rw [← hcells]
  rfl

/-- The grid with a cell that has a style and a text. -/
def gridWith (shared : Shared) (g : Grid) (style : Option Nat) (a : Address) (t : String) : Grid :=
  (applyStyle g a ((style.bind fun i => shared.styles[i]?).getD {})).setValue a (.text t)

theorem value?_gridWith (g : Grid) (style : Option Nat) (a : Address) (t : String) :
    (gridWith shared g style a t).value? a = seen t := by
  rw [gridWith, setValue_text, Grid.value?]
  cases seen t with
  | none => exact SortedMap.get?_erase_self _ a
  | some v => exact SortedMap.get?_insert_self _ a v

/-- Texts of which the same is seen leave the same grid. -/
theorem gridWith_congr {g : Grid} {style : Option Nat} {a : Address} {t t' : String}
    (h : seen t = seen t') : gridWith shared g style a t = gridWith shared g style a t' := by
  rw [gridWith, gridWith, setValue_text, setValue_text, h]

theorem put_of_value {g : Grid} {a : Address} {t : String}
    (ha : Address.parse cell.reference = .ok a)
    (hvalue : ∀ isDate, value shared isDate cell = pure (some (.text t))) :
    put shared g cell = pure (gridWith shared g cell.style a t) := by
  unfold put
  rw [ha]
  dsimp only
  rw [pure_bind, hvalue, pure_bind]
  rfl

theorem value_of_inlineStr (hkind : cell.kind = some "inlineStr") (isDate : Bool) :
    value shared isDate cell = pure (some (.text (Text.unescapeText cell.inline))) := by
  unfold value
  rw [hkind]
  rfl

theorem value_of_s {index t : String} {i : Nat} (hkind : cell.kind = some "s")
    (hvalue : cell.value = some index)
    (hindex : Text.natural? Text.maxLongWord (Text.trimChars index.toList) = some i)
    (hstring : shared.strings[i]? = some t) (isDate : Bool) :
    value shared isDate cell = pure (some (.text t)) := by
  have hfound : sharedString shared.strings index = .ok t := by
    unfold sharedString
    rw [hindex]
    dsimp only
    rw [hstring]
  have hread : value shared isDate cell
      = do return some (.text (← sharedString shared.strings index)) := by
    unfold value
    rw [hkind, hvalue]
    rfl
  rw [hread, hfound]
  rfl

/-! ## Cells -/

/-- The events of a cell that refers to a shared string. -/
def referring (c : Element) (index : String) : List Event :=
  [.opening c, .opening ⟨"v", []⟩, .text index, .closing "v", .closing "c"]

/-- The events of a cell that holds its text itself. -/
def holding (c : Element) (x : RichText false) : List Event :=
  .opening c :: .opening ⟨"is", []⟩ :: (x.events ++ [.closing "is", .closing "c"])

/-- An element is the start of a cell of some kind at an address. -/
structure IsCell (c : Element) (kind : String) (a : Address) : Prop where
  name : c.name = "c"
  kind : c.get? "t" = some kind
  place : ∃ reference, c.get? "r" = some reference ∧ Address.parse reference = .ok a

/-- The style that a cell names. -/
def styleOf (c : Element) : Option Nat := (c.get? "s").bind Text.word?

variable {c : Element} {a : Address}

theorem step_opening_cell (hname : c.name = "c") (hcell : openCell? c = some cell) :
    step shared s (.opening c) = pure { s with cell := some cell } := by
  show start shared s c true = _
  unfold start
  rw [hname, ← hcell]
  rfl

/-- A cell that refers to a shared string is given the string. -/
theorem foldlM_step_referring {index t : String} {i : Nat} (h : AtRest s) (hc : IsCell c "s" a)
    (hindex : Text.natural? Text.maxLongWord (Text.trimChars index.toList) = some i)
    (hstring : shared.strings[i]? = some t) :
    (referring c index).foldlM (step shared) s
      = pure { s with grid := gridWith shared s.grid (styleOf c) a t } := by
  obtain ⟨reference, hr, ha⟩ := hc.place
  have hopen : openCell? c = some { reference, kind := some "s", style := styleOf c } := by
    rw [openCell?, hr, hc.kind]
    rfl
  have hput : put shared s.grid
        { reference, kind := some "s", style := styleOf c, value := some ("" ++ index) }
      = pure (gridWith shared s.grid (styleOf c) a t) := by
    rw [String.empty_append]
    exact put_of_value ha (value_of_s rfl rfl hindex hstring)
  obtain ⟨grid, _, _, _, _, links, tableIds⟩ := s
  obtain ⟨rfl, rfl, rfl, rfl⟩ := h
  rw [referring, foldlM_step_cons (step_opening_cell hc.name hopen), foldlM_step_cons rfl,
    foldlM_step_cons rfl, foldlM_step_cons rfl, foldlM_step_singleton]
  exact (congrArg (· >>= _) hput).trans (pure_bind _ _)

/-- A cell that holds rich text itself is given all of it. -/
theorem foldlM_step_holding (h : AtRest s) (hc : IsCell c "inlineStr" a) (x : RichText false) :
    (holding c x).foldlM (step shared) s
      = pure { s with grid := gridWith shared s.grid (styleOf c) a (x.shown true) } := by
  obtain ⟨reference, hr, ha⟩ := hc.place
  have hopen : openCell? c = some { reference, kind := some "inlineStr", style := styleOf c } := by
    rw [openCell?, hr, hc.kind]
    rfl
  have hput : put shared s.grid
        { reference, kind := some "inlineStr", style := styleOf c, inline := "" ++ x.chars true }
      = pure (gridWith shared s.grid (styleOf c) a (x.shown true)) := by
    rw [String.empty_append]
    exact put_of_value ha (value_of_inlineStr rfl)
  obtain ⟨grid, _, _, _, _, links, tableIds⟩ := s
  obtain ⟨rfl, rfl, rfl, rfl⟩ := h
  have hcontent := foldlM_step_events shared x ⟨grid, none, false, false, false, links, tableIds⟩
    { reference, kind := some "inlineStr", style := styleOf c }
  rw [holding, foldlM_step_cons (step_opening_cell hc.name hopen)]
  refine (foldlM_step_cons rfl _).trans ((foldlM_step_append hcontent _).trans ?_)
  rw [foldlM_step_cons rfl, foldlM_step_singleton]
  exact (congrArg (· >>= _) hput).trans (pure_bind _ _)

/--
Two cells at one address and of one style. The first refers to a rich text among the shared strings, and
the second holds it itself.
-/
structure Twins (shared : Shared) (x : RichText false) (c c' : Element) (index : String)
    (a : Address) : Prop where
  refers : IsCell c "s" a
  holds : IsCell c' "inlineStr" a
  style : styleOf c' = styleOf c
  string : ∃ part i, shared.strings = SharedStrings.ofEvents part ∧ SharedStrings.IsItem part i x
    ∧ Text.natural? Text.maxLongWord (Text.trimChars index.toList) = some i

/--
**A text is the same from the shared strings and from the cell itself exactly if its phonetic runs make
no difference.**

Whatever has been read of the sheet before, both cells can be read. Their values are the same if and only
if the text with its phonetic runs shows the same as without; and if they are, so is all that the reader
goes on with.
-/
theorem twins_agree_iff {x : RichText false} {c' : Element} {index : String} {before : List Event}
    (h : Twins shared x c c' index a) (hclosed : Closed "c" before)
    (hbefore : (before.foldlM (step shared) {}).run = .ok (.ok s)) :
    ∃ s₁ s₂, ((before ++ referring c index).foldlM (step shared) {}).run = .ok (.ok s₁)
      ∧ ((before ++ holding c' x).foldlM (step shared) {}).run = .ok (.ok s₂)
      ∧ (s₁.grid.value? a = s₂.grid.value? a ↔ x.ReadsAlike)
      ∧ (s₁.grid.value? a = s₂.grid.value? a → s₁ = s₂) := by
  obtain ⟨part, i, hstrings, hitem, hindex⟩ := h.string
  have hstring : shared.strings[i]? = some (x.shown false) := by
    rw [hstrings, SharedStrings.getElem?_ofEvents hitem]
  have hrest := atRest_of_closed hclosed hbefore
  have hreferring := foldlM_step_referring hrest h.refers hindex hstring
  have hholding : (holding c' x).foldlM (step shared) s = _ := foldlM_step_holding hrest h.holds x
  rw [h.style] at hholding
  refine ⟨_, _, run_foldlM_append hbefore hreferring, run_foldlM_append hbefore hholding, ?_, ?_⟩
  · rw [value?_gridWith, value?_gridWith]
    exact seen_eq_iff
  · -- the grids are alike in everything but this value
    intro hsame
    rw [value?_gridWith, value?_gridWith] at hsame
    rw [gridWith_congr hsame]

/-! ## A text in two runs, and a text with its reading -/

/-- The start of a cell of some kind in the first row and column. -/
def firstCell (kind : String) : Element := ⟨"c", [("r", some "A1"), ("t", some kind)]⟩

theorem isCell_firstCell (kind : String) : IsCell (firstCell kind) kind ⟨0, 0⟩ :=
  ⟨rfl, rfl, "A1", rfl, rfl⟩

/-- A text of two runs, the second one bold. -/
def halfBold : RichText false :=
  .around ⟨"r", []⟩ (by decide) (.text [] ["To"] .nil) <|
    .around ⟨"r", []⟩ (by decide)
      (.around ⟨"rPr", []⟩ (by decide) (.lone ⟨"b", []⟩ (by decide) .nil) (.text [] ["kyo"] .nil)) .nil

/-- The text as the only shared string. -/
def halfBoldShared : Shared where
  strings := SharedStrings.ofEvents
    (.opening ⟨"sst", []⟩ :: (SharedStrings.item halfBold ++ [.closing "sst"]))
  styles := []
  dates := .from1900

theorem twins_half_bold :
    Twins halfBoldShared halfBold (firstCell "s") (firstCell "inlineStr") "0" ⟨0, 0⟩ where
  refers := isCell_firstCell "s"
  holds := isCell_firstCell "inlineStr"
  style := rfl
  string :=
    ⟨_, 0, rfl, ⟨[.opening ⟨"sst", []⟩], [.closing "sst"], rfl,
      .other .nil (by rintro _ ⟨⟩; decide), .other .nil (by rintro _ ⟨⟩; decide), rfl⟩, by decide⟩

theorem twins_agree_iff_half_bold :
    ∃ s₁ s₂, (([Event.opening ⟨"worksheet", []⟩] ++ referring (firstCell "s") "0").foldlM
        (step halfBoldShared) {}).run = .ok (.ok s₁)
      ∧ (([Event.opening ⟨"worksheet", []⟩] ++ holding (firstCell "inlineStr") halfBold).foldlM
        (step halfBoldShared) {}).run = .ok (.ok s₂)
      ∧ s₁.grid.value? ⟨0, 0⟩ = s₂.grid.value? ⟨0, 0⟩ ∧ s₁ = s₂ := by
  have hclosed : Closed "c" [.opening ⟨"worksheet", []⟩] := .other .nil (by rintro _ ⟨⟩; decide)
  obtain ⟨s₁, s₂, h₁, h₂, hiff, hsame⟩ := twins_agree_iff twins_half_bold hclosed rfl
  have hvalue := hiff.mpr (RichText.readsAlike_of_isMute (by decide +kernel))
  exact ⟨s₁, s₂, h₁, h₂, hvalue, hsame hvalue⟩

/-- A package with a text that has a phonetic run, once as a shared string and once in a cell. -/
def inTwoScripts : Package where
  parts := [
    ("xl/sharedStrings.xml", bytes
      "<sst><si><t>Tokyo</t><rPh sb='0' eb='2'><t>toukyou</t></rPh></si></sst>"),
    ("xl/a.xml", bytes "<worksheet><c r='A1' t='s'><v>0</v></c></worksheet>"),
    ("xl/b.xml", bytes ("<worksheet><c r='A1' t='inlineStr'><is><t>Tokyo</t>"
      ++ "<rPh sb='0' eb='2'><t>toukyou</t></rPh></is></c></worksheet>"))]

/-- The text in it. -/
def tokyo : RichText false :=
  .text [] ["Tokyo"]
    (.aloud [("sb", some "0"), ("eb", some "2")] (.text [] ["toukyou"] .nil) .nil)

/-- A part with nothing but some cells. -/
theorem run_read_of_cells {p : Package} {path : String} {es : List Event} {g : Grid}
    (hes : p.events? .kept path
      = some ⟨.opening ⟨"worksheet", []⟩ :: (es ++ [.closing "worksheet"]), true⟩)
    (hcells : es.foldlM (step shared) {} = pure { grid := g }) :
    (read p shared path).run = .ok (.ok g) := by
  have hopen : step shared {} (.opening ⟨"worksheet", []⟩) = pure {} := rfl
  have hevents : (ofEvents shared
      ⟨.opening ⟨"worksheet", []⟩ :: (es ++ [.closing "worksheet"]), true⟩).run
        = .ok (.ok { grid := g }) := by
    unfold ofEvents
    rw [foldlM_step_cons hopen, foldlM_step_append hcells]
    rfl
  exact run_read_of_bare hes hevents rfl rfl

/-- **With a phonetic run the two are not the same**: the cell shows the text and its reading. -/
theorem twins_differ_in_two_scripts :
    SharedStrings.read inTwoScripts = .ok ["Tokyo"]
      ∧ (∃ g, (read inTwoScripts ⟨["Tokyo"], [], .from1900⟩ "xl/a.xml").run = .ok (.ok g)
        ∧ g.value? ⟨0, 0⟩ = some (.text "Tokyo"))
      ∧ ∃ g, (read inTwoScripts ⟨["Tokyo"], [], .from1900⟩ "xl/b.xml").run = .ok (.ok g)
        ∧ g.value? ⟨0, 0⟩ = some (.text "Tokyotoukyou") := by
  have hreferring : inTwoScripts.events? .kept "xl/a.xml" = some ⟨.opening ⟨"worksheet", []⟩
      :: (referring (firstCell "s") "0" ++ [.closing "worksheet"]), true⟩ := by decide +kernel
  have hholding : inTwoScripts.events? .kept "xl/b.xml" = some ⟨.opening ⟨"worksheet", []⟩
      :: (holding (firstCell "inlineStr") tokyo ++ [.closing "worksheet"]), true⟩ := by
    decide +kernel
  have hitem : inTwoScripts.events? .kept "xl/sharedStrings.xml" = some ⟨.opening ⟨"sst", []⟩
      :: (SharedStrings.item tokyo ++ [.closing "sst"]), true⟩ := by
    decide +kernel
  have hstrings : SharedStrings.ofEvents (.opening ⟨"sst", []⟩
      :: (SharedStrings.item tokyo ++ [.closing "sst"])) = ["Tokyo"] := by
    decide +kernel
  have hrest : AtRest {} := ⟨rfl, rfl, rfl, rfl⟩
  refine ⟨?_, ⟨_, run_read_of_cells hreferring
    (foldlM_step_referring hrest (isCell_firstCell _) (i := 0) (by decide) rfl), ?_⟩,
    ⟨_, run_read_of_cells hholding (foldlM_step_holding hrest (isCell_firstCell _) tokyo), ?_⟩⟩
  · rw [SharedStrings.read, hitem]
    exact congrArg Except.ok hstrings
  · rw [value?_gridWith]
    rfl
  · have hshown : tokyo.shown true = "Tokyotoukyou" := by decide +kernel
    rw [value?_gridWith, hshown]
    rfl

end Worksheet

end Sheetwise
