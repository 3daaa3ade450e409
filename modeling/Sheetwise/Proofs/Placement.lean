import Sheetwise.Package.Source
import Sheetwise.Proofs.Worksheet

/-!
# The place of a sheet and its print areas

A print area may belong to a sheet, which it names by place. The place is that of a `sheet` element of
the workbook part. The print areas of a sheet are looked up by another place, that of the sheet among
the sheets that were kept. The two agree if every element before it was kept; an element without a
name, without a relationship, or for something else than cells is not.
-/

namespace Sheetwise

namespace WorkbookPart

/-- The elements that list the sheets, in order. -/
def sheetElements (es : List Markup.Event) : List Markup.Element :=
  (es.filterMap Markup.Event.element?).filter fun e => e.name = "sheet"

/-- The name and the identifier that an element lists, if it has both. -/
def listing? (e : Markup.Element) : Option (String × String) := do
  return (← e.get? "name", ← e.get? "r:id")

theorem sheets_sheet (part : WorkbookPart) (e : Markup.Element) :
    (sheet part e).sheets = part.sheets ++ (listing? e).toList := by
  unfold sheet listing?
  cases e.get? "name" with
  | none => exact (List.append_nil _).symm
  | some name =>
      cases e.get? "r:id" with
      | none => exact (List.append_nil _).symm
      | some id => rfl

theorem sheets_properties (part : WorkbookPart) (e : Markup.Element) :
    (properties part e).sheets = part.sheets := by
  unfold properties
  split <;> rfl

theorem sheets_define (s : State) : (define s).part.sheets = s.part.sheets := by
  unfold define
  split
  · rfl
  · dsimp only
    split <;> rfl

/-- The start of an element adds to the sheets what the element lists. -/
theorem sheets_start (s : State) (e : Markup.Element) (staysOpen : Bool) :
    (start s e staysOpen).part.sheets
      = s.part.sheets ++ if e.name = "sheet" then (listing? e).toList else [] := by
  unfold start
  split
  · next h => rw [if_pos h]; exact sheets_sheet s.part e
  · next h =>
    rw [h, if_neg (by decide), List.append_nil]
    exact sheets_properties s.part e
  · next h =>
    rw [h, if_neg (show ¬ "definedName" = "sheet" by decide), List.append_nil]
    split <;> rfl
  · next h _ _ => rw [if_neg h, List.append_nil]

theorem sheets_step (s : State) (ev : Markup.Event) :
    (step s ev).part.sheets = s.part.sheets ++ (sheetElements [ev]).filterMap listing? := by
  have listed (e : Markup.Element) :
      (([e].filter fun e => e.name = "sheet").filterMap listing?)
        = if e.name = "sheet" then (listing? e).toList else [] := by
    by_cases h : e.name = "sheet"
    · rw [if_pos h, List.filter_cons_of_pos (by rw [h]; rfl)]
      cases hentry : listing? e <;> simp [hentry]
    · rw [if_neg h, List.filter_cons_of_neg (by simpa using h)]
      rfl
  cases ev with
  | opening e => rw [step, sheets_start, ← listed]; rfl
  | selfClosing e => rw [step, sheets_start, ← listed]; rfl
  | closing name =>
      unfold step
      dsimp only
      split
      · rw [sheets_define]; exact (List.append_nil _).symm
      · exact (List.append_nil _).symm
  | text t =>
      unfold step
      dsimp only
      split <;> exact (List.append_nil _).symm

theorem sheetElements_cons (ev : Markup.Event) (es : List Markup.Event) :
    sheetElements (ev :: es) = sheetElements [ev] ++ sheetElements es := by
  unfold sheetElements
  rw [← List.filter_append, ← List.filterMap_append]
  rfl

theorem sheets_foldl (s : State) (es : List Markup.Event) :
    (es.foldl step s).part.sheets = s.part.sheets ++ (sheetElements es).filterMap listing? := by
  induction es generalizing s with
  | nil => exact (List.append_nil _).symm
  | cons ev es ih =>
      rw [List.foldl_cons, ih, sheets_step, sheetElements_cons ev es, List.filterMap_append,
        List.append_assoc]

/-- **The sheets are what the elements list**, in the same order. -/
theorem sheets_ofEvents (es : List Markup.Event) :
    (ofEvents es).sheets = (sheetElements es).filterMap listing? :=
  sheets_foldl {} es

theorem read_eq_ok {p : Package} {part : WorkbookPart} :
    read p = .ok part
      ↔ ∃ es, p.events? .trimmed path = some es ∧ es.checked = .ok () ∧ part = ofEvents es.events := by
  unfold read
  cases p.events? .trimmed path with
  | none => simp
  | some es => cases hes : es.checked <;> simp [hes, Except.map, eq_comm]

end WorkbookPart

namespace WorkbookFile

open WorkbookPart (sheetElements)

/-- The name under which the sheet of an element is kept, if it is. -/
def keptName? (rels : Relationships) (e : Markup.Element) : Option String :=
  (WorkbookPart.listing? e).bind fun s => (sheetPath? rels s.2).map fun _ => s.1

/-- The place where a sheet is looked for that is listed after some others. -/
def placeAfter (rels : Relationships) (before : List Markup.Element) (name : String) : Nat :=
  (before.filterMap (keptName? rels)).idxOf name

/-! ## Places among lists -/

theorem findIdx?_append_cons {α : Type} [DecidableEq α] (before after : List α) (a : α) :
    (before ++ a :: after).findIdx? (fun x => x = a) = some (before.idxOf a) := by
  induction before with
  | nil => rw [List.nil_append, List.findIdx?_cons, if_pos (decide_eq_true rfl)]; rfl
  | cons b before ih =>
      rw [List.cons_append, List.findIdx?_cons, ih, List.idxOf_cons]
      by_cases h : b = a
      · simp [h]
      · simp [h, beq_false_of_ne]

/-- What is looked for comes no later than its own place among all elements before any are left out. -/
theorem placeAfter_le (rels : Relationships) (before : List Markup.Element) (name : String) :
    placeAfter rels before name ≤ before.length :=
  Nat.le_trans List.idxOf_le_length (List.length_filterMap_le _ before)

/-- The places agree when nothing before is left out and nothing before has the name. -/
theorem placeAfter_eq_length_iff (rels : Relationships) (before : List Markup.Element)
    (name : String) :
    placeAfter rels before name = before.length
      ↔ ∀ b ∈ before, ∃ n, keptName? rels b = some n ∧ n ≠ name := by
  induction before with
  | nil => simp [placeAfter]
  | cons b before ih =>
      -- an element that is left out puts the place behind for good: it never exceeds the rest
      have hle := placeAfter_le rels before name
      unfold placeAfter at ih hle ⊢
      rw [List.forall_mem_cons, ← ih, List.length_cons]
      cases hkept : keptName? rels b with
      | none =>
          rw [List.filterMap_cons_none hkept]
          constructor
          · intro h; omega
          · intro hgiven
            obtain ⟨⟨n, hn, _⟩, _⟩ := hgiven
            cases hn
      | some n =>
          rw [List.filterMap_cons_some hkept, List.idxOf_cons]
          by_cases hn : n = name
          · simp [hn]
          · simp [hn, beq_false_of_ne]

/-! ## Which definitions are used -/

/-- A definition that belongs to a place holds there. -/
theorem mem_areasAt {f : WorkbookFile} {i : Nat} {d : DefinedArea} (hd : d ∈ f.printAreas)
    (h : d.localSheet = some i) : d ∈ f.areasAt i := by
  have hown : d ∈ f.printAreas.filter fun d => d.localSheet = some i :=
    List.mem_filter.mpr ⟨hd, decide_eq_true h⟩
  unfold areasAt
  dsimp only
  split
  · next hempty => rw [List.isEmpty_iff.mp hempty] at hown; cases hown
  · exact hown

/-- A definition that holds at a place belongs to it, or to no sheet. -/
theorem localSheet_of_mem_areasAt {f : WorkbookFile} {i : Nat} {d : DefinedArea}
    (h : d ∈ f.areasAt i) : d.localSheet = some i ∨ d.localSheet = none := by
  unfold areasAt at h
  dsimp only at h
  split at h
  · exact .inr (of_decide_eq_true (List.mem_filter.mp h).2)
  · exact .inl (of_decide_eq_true (List.mem_filter.mp h).2)

theorem areasAt_of_none {f : WorkbookFile} {i : Nat}
    (h : ∀ d ∈ f.printAreas, d.localSheet ≠ some i) :
    f.areasAt i = f.printAreas.filter fun d => d.localSheet = none := by
  have hown : (f.printAreas.filter fun d => d.localSheet = some i) = [] := by
    rw [List.filter_eq_nil_iff]
    intro d hd hsheet
    exact h d hd (of_decide_eq_true hsheet)
  unfold areasAt
  rw [hown]
  rfl

/-- What belongs to one place only does not hold at another. -/
theorem ne_of_areasAt_eq {f : WorkbookFile} {i j : Nat} (hij : i ≠ j)
    (h : f.areasAt i = f.areasAt j) : ∀ d ∈ f.printAreas, d.localSheet ≠ some i := by
  intro d hd hsheet
  have hmem := mem_areasAt hd hsheet
  rw [h] at hmem
  rcases localSheet_of_mem_areasAt hmem with hj | hnone
  · rw [hsheet] at hj
    exact hij (Option.some.inj hj)
  · rw [hsheet] at hnone
    cases hnone

/-- Two places have the same definitions only if there are none for either. -/
theorem areasAt_eq_iff (f : WorkbookFile) {i j : Nat} (hij : i ≠ j) :
    f.areasAt i = f.areasAt j
      ↔ ∀ d ∈ f.printAreas, d.localSheet ≠ some i ∧ d.localSheet ≠ some j := by
  constructor
  · intro h d hd
    exact ⟨ne_of_areasAt_eq hij h d hd, ne_of_areasAt_eq hij.symm h.symm d hd⟩
  · intro h
    rw [areasAt_of_none fun d hd => (h d hd).1, areasAt_of_none fun d hd => (h d hd).2]

/-- How the sheets of a file are listed in the package that it was read from. -/
structure Listed (p : Package) (f : WorkbookFile) (es : List Markup.Element)
    (rels : Relationships) : Prop where
  events : ∃ evs, p.events? .trimmed WorkbookPart.path = some evs ∧ sheetElements evs.events = es
    ∧ (WorkbookPart.ofEvents evs.events).printAreas = f.printAreas
  relationships : Relationships.read? p (Package.relationshipsPath WorkbookPart.path)
    = .ok (some rels)
  names : f.sheetNames = es.filterMap (keptName? rels)

/--
Where the print areas of a sheet come from that is listed after the elements `before`: the definitions
are those of the place where the sheet is looked for. They are those of its own place if every element
before it was kept under another name, and else only if there are none for either place.
-/
structure AreasFrom (f : WorkbookFile) (rels : Relationships) (before : List Markup.Element)
    (name : String) : Prop where
  areas : f.areas name = .ok ((f.areasAt (placeAfter rels before name)).flatMap fun d =>
    PrintArea.listOf d.formula name).eraseDups
  own_iff : f.areasAt (placeAfter rels before name) = f.areasAt before.length
    ↔ (∀ b ∈ before, ∃ n, keptName? rels b = some n ∧ n ≠ name)
      ∨ ∀ d ∈ f.printAreas, d.localSheet ≠ some (placeAfter rels before name)
        ∧ d.localSheet ≠ some before.length

theorem listed_of_read {p : Package} {f : WorkbookFile} (hread : (read p).run = .ok (.ok f)) :
    ∃ es rels, Listed p f es rels := by
  obtain ⟨c, sheets, hc, hsheets, rfl⟩ := run_read_eq_ok.mp hread
  obtain ⟨evs, hevs, _, hpart⟩ := WorkbookPart.read_eq_ok.mp hc.part
  refine ⟨sheetElements evs.events, c.rels, ⟨evs, hevs, rfl, ?_⟩, hc.rels, ?_⟩
  · rw [← hpart]; rfl
  · show (sheets.filterMap id).map SheetPart.name = _
    rw [names_ofSheets hsheets, hpart, WorkbookPart.sheets_ofEvents]
    unfold keptNames
    rw [List.filterMap_filterMap]
    rfl

/-- A sheet is looked for among the names that were kept. -/
theorem findIdx?_sheets {f : WorkbookFile} {rels : Relationships} {before after : List Markup.Element}
    {e : Markup.Element} {name : String}
    (hnames : f.sheetNames = (before ++ e :: after).filterMap (keptName? rels))
    (hkept : keptName? rels e = some name) :
    (f.sheets.findIdx? fun s => s.name = name) = some (placeAfter rels before name) := by
  have hcomp : (fun s : SheetPart => decide (s.name = name))
      = (fun n => decide (n = name)) ∘ SheetPart.name := rfl
  rw [hcomp, ← List.findIdx?_map]
  show f.sheetNames.findIdx? _ = _
  rw [hnames, List.filterMap_append, List.filterMap_cons_some hkept]
  exact findIdx?_append_cons _ _ name

/-- **Every sheet that is kept has its print areas from the place where it is looked for.** -/
theorem areasFrom_of_read {p : Package} {f : WorkbookFile} (hread : (read p).run = .ok (.ok f)) :
    ∃ es rels, Listed p f es rels
      ∧ ∀ before e after name, es = before ++ e :: after → keptName? rels e = some name →
        AreasFrom f rels before name := by
  obtain ⟨es, rels, hlisted⟩ := listed_of_read hread
  refine ⟨es, rels, hlisted, ?_⟩
  intro before e after name hsplit hkept
  have hnames := hlisted.names
  rw [hsplit] at hnames
  constructor
  · unfold areas
    rw [findIdx?_sheets hnames hkept]
  · rw [← placeAfter_eq_length_iff]
    by_cases hij : placeAfter rels before name = before.length
    · rw [hij]
      exact ⟨fun _ => .inl rfl, fun _ => rfl⟩
    · rw [areasAt_eq_iff f hij]
      exact ⟨.inr, fun h => h.resolve_left hij⟩

/-! ## A chart sheet in front -/

/-- A package with a chart sheet before its worksheet, and a print area defined for the worksheet. -/
def chartFirst : Package where
  parts := [(contentTypesPath, Markup.bytes "<Types/>"),
    (WorkbookPart.path, Markup.bytes ("<workbook>"
      ++ "<sheet name='Chart' r:id='x'/><sheet name='Data' r:id='y'/>"
      ++ "<definedName name='_xlnm.Print_Area' localSheetId='1'>Data!A1:B2</definedName>"
      ++ "</workbook>")),
    (Package.relationshipsPath WorkbookPart.path, Markup.bytes ("<Relationships>"
      ++ "<Relationship Id='x' Target='c.xml' Type='/chartsheet'/>"
      ++ "<Relationship Id='y' Target='d.xml' Type='/worksheet'/></Relationships>")),
    ("xl/d.xml", Markup.bytes "<worksheet/>")]

/-- The events of its workbook part. -/
def chartFirstEvents : List Markup.Event :=
  [.opening ⟨"workbook", []⟩,
    .selfClosing ⟨"sheet", [("name", some "Chart"), ("r:id", some "x")]⟩,
    .selfClosing ⟨"sheet", [("name", some "Data"), ("r:id", some "y")]⟩,
    .opening ⟨"definedName", [("name", some "_xlnm.Print_Area"), ("localSheetId", some "1")]⟩,
    .text "Data!A1:B2", .closing "definedName", .closing "workbook"]

/-- The events of the relationships of that part. -/
def chartFirstLinks : List Markup.Event :=
  [.opening ⟨"Relationships", []⟩,
    .selfClosing ⟨"Relationship", [("Id", some "x"), ("Target", some "c.xml"),
      ("Type", some "/chartsheet")]⟩,
    .selfClosing ⟨"Relationship", [("Id", some "y"), ("Target", some "d.xml"),
      ("Type", some "/worksheet")]⟩,
    .closing "Relationships"]

/-- What is read of it. -/
def chartFirstFile : WorkbookFile where
  sheets := [⟨"Data", .ok {}⟩]
  printAreas := [⟨some 1, "Data!A1:B2"⟩]
  dates := .from1900

theorem events_chartFirst :
    chartFirst.events? .trimmed WorkbookPart.path = some ⟨chartFirstEvents, true⟩ := by
  decide +kernel

theorem links_chartFirst :
    Relationships.read? chartFirst (Package.relationshipsPath WorkbookPart.path)
      = .ok (some (Relationships.ofEvents chartFirstLinks)) := by
  have hlinks : chartFirst.events? .trimmed (Package.relationshipsPath WorkbookPart.path)
      = some ⟨chartFirstLinks, true⟩ := by decide +kernel
  unfold Relationships.read?
  rw [hlinks]
  rfl

theorem read_chartFirst : (read chartFirst).run = .ok (.ok chartFirstFile) := by
  have hstrings : chartFirst.events? .kept "xl/sharedStrings.xml" = none := by decide +kernel
  have hstyles : chartFirst.events? .trimmed "xl/styles.xml" = none := by decide +kernel
  have hcommon : HasCommon chartFirst ⟨[], [], WorkbookPart.ofEvents chartFirstEvents,
      Relationships.ofEvents chartFirstLinks⟩ := by
    refine ⟨by decide +kernel, ?_, ?_, ?_, links_chartFirst⟩
    · unfold SharedStrings.read; rw [hstrings]
    · unfold Styles.read; rw [hstyles]; rfl
    · unfold WorkbookPart.read; rw [events_chartFirst]; rfl
  have hpath : sheetPath? (Relationships.ofEvents chartFirstLinks) "y" = some "xl/d.xml" := by
    decide +kernel
  have hsheet : chartFirst.events? .kept "xl/d.xml"
      = some ⟨[.selfClosing ⟨"worksheet", []⟩], true⟩ := by decide +kernel
  refine run_read_eq_ok.mpr ⟨_, [none, some ⟨"Data", .ok {}⟩], hcommon, ?_, rfl⟩
  refine Reading.run_mapM_eq_ok.mpr (.cons rfl (.cons ?_ .nil))
  rw [run_readSheet, hpath]
  dsimp only
  rw [Worksheet.run_read_of_bare hsheet rfl rfl rfl]
  rfl

/-- Its worksheet has its print area from the place where it is looked for. -/
theorem areasFrom_of_read_chartFirst :
    (read chartFirst).run = .ok (.ok chartFirstFile)
      ∧ ∃ es rels, Listed chartFirst chartFirstFile es rels
        ∧ ∀ before e after name, es = before ++ e :: after → keptName? rels e = some name →
          AreasFrom chartFirstFile rels before name :=
  ⟨read_chartFirst, areasFrom_of_read read_chartFirst⟩

/-- **But there is none**: the worksheet is listed second, and its print area is looked for under the
first place. -/
theorem areas_behind_chart_sheet :
    (read chartFirst).run = .ok (.ok chartFirstFile)
      ∧ chartFirst.events? .trimmed WorkbookPart.path = some ⟨chartFirstEvents, true⟩
      ∧ ((sheetElements chartFirstEvents)[1]?.bind
          (keptName? (Relationships.ofEvents chartFirstLinks))) = some "Data"
      ∧ chartFirstFile.areas "Data" = .ok []
      ∧ ((chartFirstFile.areasAt 1).flatMap fun d => PrintArea.listOf d.formula "Data").eraseDups
        = [⟨1, 0, 2, 1⟩] := by
  refine ⟨read_chartFirst, events_chartFirst, by decide +kernel, ?_, by decide +kernel⟩
  show Except.ok _ = _
  exact congrArg Except.ok (by decide +kernel)

end WorkbookFile

end Sheetwise
