import Sheetwise.Proofs.Worksheet

/-!
# A bad sheet is contained

A sheet keeps to itself what is wrong with it. If the part of one sheet is replaced, by whatever bytes,
the package is still accepted, and the file is the same but for the grid of that sheet.

There is one way out. A cell beyond durations does not make its sheet unreadable but breaks off the
reading of the package, and no sheet is read at all.
-/

namespace Sheetwise.WorkbookFile

/-- The parts that all sheets have in common. -/
def commonPaths : List String :=
  [contentTypesPath, "xl/sharedStrings.xml", "xl/styles.xml", WorkbookPart.path,
    Package.relationshipsPath WorkbookPart.path]

/--
The part at `path` is that of one entry in the list of sheets, which stands after the entries `before`,
and it is looked at for nothing else.
-/
structure UsedOnce (p : Package) (c : Common) (path : String) (before : List (String × String))
    (entry : String × String) (after : List (String × String)) : Prop where
  entries : c.part.sheets = before ++ entry :: after
  own : sheetPath? c.rels entry.2 = some path
  common : path ∉ commonPaths
  others : ∀ s ∈ before ++ after, ∀ path', sheetPath? c.rels s.2 = some path' →
    ¬ Worksheet.LooksAt p c.shared path' path

/-- Of two files, one is the other but for the grid of the sheet `name` at a place. -/
structure SameBut (place : Nat) (name : String) (f f' : WorkbookFile) : Prop where
  names : f'.sheets.map SheetPart.name = f.sheets.map SheetPart.name
  printAreas : f'.printAreas = f.printAreas
  dates : f'.dates = f.dates
  others : ∀ i, i ≠ place → f'.sheets[i]? = f.sheets[i]?
  own : ∃ grid grid', f.sheets[place]? = some ⟨name, grid⟩ ∧ f'.sheets[place]? = some ⟨name, grid'⟩

variable {p p' : Package} {c : Common}

theorem hasCommon_congr (h : ∀ q ∈ commonPaths, p'.find? q = p.find? q) (hc : HasCommon p c) :
    HasCommon p' c := by
  have hevents {q : String} (hq : q ∈ commonPaths) (blanks : Markup.Blanks) :
      p'.events? blanks q = p.events? blanks q := by
    unfold Package.events?
    rw [h q hq]
  constructor
  · rw [h contentTypesPath (by simp [commonPaths])]
    exact hc.types
  · rw [← hc.strings]
    unfold SharedStrings.read
    rw [hevents (by simp [commonPaths])]
  · rw [← hc.styles]
    unfold Styles.read
    rw [hevents (by simp [commonPaths])]
  · rw [← hc.part]
    unfold WorkbookPart.read
    rw [hevents (by simp [commonPaths])]
  · rw [← hc.rels]
    unfold Relationships.read?
    rw [hevents (by simp [commonPaths])]

/-- A sheet is read alike from packages that agree on the parts looked at. -/
theorem readSheet_congr {shared : Worksheet.Shared} {rels : Relationships} {name id : String}
    (h : ∀ path, sheetPath? rels id = some path → ∀ q, Worksheet.LooksAt p shared path q →
      p'.find? q = p.find? q) :
    readSheet p' rels shared name id = readSheet p rels shared name id := by
  apply ExceptT.ext
  rw [run_readSheet, run_readSheet]
  cases hpath : sheetPath? rels id with
  | none => rfl
  | some path =>
      dsimp only
      rw [Worksheet.read_congr (h path hpath)]

theorem readSheets_congr {entries : List (String × String)}
    (h : ∀ s ∈ entries, ∀ path, sheetPath? c.rels s.2 = some path →
      ∀ q, Worksheet.LooksAt p c.shared path q → p'.find? q = p.find? q) :
    readSheets p' c entries = readSheets p c entries := by
  unfold readSheets
  induction entries with
  | nil => rfl
  | cons s entries ih =>
      rw [List.mapM_cons, List.mapM_cons, readSheet_congr (h s List.mem_cons_self),
        ih fun s' hs' => h s' (List.mem_cons_of_mem s hs')]

/-! ## Replacing one sheet of a file -/

theorem sheets_ofSheets (c : Common) (xs : List (Option SheetPart)) (own : SheetPart)
    (zs : List (Option SheetPart)) :
    (ofSheets c (xs ++ some own :: zs)).sheets
      = xs.filterMap id ++ own :: zs.filterMap id := by
  unfold ofSheets
  dsimp only
  rw [List.filterMap_append]
  rfl

theorem getElem?_append_cons_of_ne {α : Type} (xs : List α) (a b : α) (zs : List α) {i : Nat}
    (h : i ≠ xs.length) : (xs ++ a :: zs)[i]? = (xs ++ b :: zs)[i]? := by
  rcases Nat.lt_or_gt_of_ne h with hlt | hgt
  · rw [List.getElem?_append_left hlt, List.getElem?_append_left hlt]
  · rw [List.getElem?_append_right (Nat.le_of_lt hgt), List.getElem?_append_right (Nat.le_of_lt hgt)]
    obtain ⟨k, hk⟩ : ∃ k, i - xs.length = k + 1 := ⟨i - xs.length - 1, by omega⟩
    rw [hk, List.getElem?_cons_succ, List.getElem?_cons_succ]

theorem sameBut_ofSheets (c : Common) (xs zs : List (Option SheetPart)) (name : String)
    (grid grid' : Except Unreadable Grid) :
    SameBut (xs.filterMap id).length name (ofSheets c (xs ++ some ⟨name, grid⟩ :: zs))
      (ofSheets c (xs ++ some ⟨name, grid'⟩ :: zs)) := by
  constructor
  · rw [sheets_ofSheets, sheets_ofSheets, List.map_append, List.map_append, List.map_cons,
      List.map_cons]
  · rfl
  · rfl
  · intro i hi
    rw [sheets_ofSheets, sheets_ofSheets]
    exact getElem?_append_cons_of_ne _ _ _ _ hi
  · refine ⟨grid, grid', ?_, ?_⟩
    · rw [sheets_ofSheets, List.getElem?_append_right (Nat.le_refl _), Nat.sub_self]
      rfl
    · rw [sheets_ofSheets, List.getElem?_append_right (Nat.le_refl _), Nat.sub_self]
      rfl

/-! ## Replacing the part of one sheet -/

/-- The content of a part breaks off the reading of the package. -/
def BreaksOff (p : Package) (c : Common) (path : String) : Prop :=
  ∃ es, p.events? .kept path = some es ∧ Worksheet.MeetsFault c.shared es.events

/-- What is read of a package in which the part of one sheet was replaced. -/
theorem run_read_replaced {f : WorkbookFile} {path : String} {before after : List (String × String)}
    {entry : String × String} (hread : (read p).run = .ok (.ok f)) (hc : HasCommon p c)
    (hused : UsedOnce p c path before entry after)
    (hsame : ∀ q, q ≠ path → p'.find? q = p.find? q) :
    match (Worksheet.read p' c.shared path).run with
    | .error fault => (read p').run = .error fault
    | .ok _ => ∃ f', (read p').run = .ok (.ok f')
        ∧ SameBut (keptNames c.rels before).length entry.1 f f' := by
  have hc' : HasCommon p' c := by
    refine hasCommon_congr (fun q hq => hsame q ?_) hc
    rintro rfl
    exact hused.common hq
  have hother (entries : List (String × String)) (hsub : ∀ s ∈ entries, s ∈ before ++ after) :
      readSheets p' c entries = readSheets p c entries := by
    refine readSheets_congr fun s hs path' hpath' q hq => hsame q ?_
    rintro rfl
    exact hused.others s (hsub s hs) path' hpath' hq
  -- what the rest of the package gives
  rw [run_read hc, hused.entries] at hread
  obtain ⟨sheets, hsheets, hf⟩ := Reading.run_bind_eq_ok.mp hread
  cases hf
  obtain ⟨xs, x, zs, rfl, hxs, hx, hzs⟩ := Reading.run_mapM_split hsheets
  have hplace : (keptNames c.rels before).length = (xs.filterMap id).length := by
    rw [← names_ofSheets hxs, List.length_map]
  have hxs' : (readSheets p' c before).run = .ok (.ok xs) := by
    rw [hother before fun s hs => List.mem_append_left _ hs]
    exact hxs
  have hzs' : (readSheets p' c after).run = .ok (.ok zs) := by
    rw [hother after fun s hs => List.mem_append_right _ hs]
    exact hzs
  -- what the replaced part gives
  rw [run_readSheet, hused.own] at hx
  rcases hr : (Worksheet.read p c.shared path).run with fault | r
  · dsimp only at hx
    rw [hr] at hx
    cases hx
  dsimp only at hx
  rw [hr] at hx
  cases hx
  have hall := Reading.run_mapM_decided hxs' hzs' entry
  rw [run_readSheet, hused.own] at hall
  dsimp only at hall
  rcases hr' : (Worksheet.read p' c.shared path).run with fault | r'
  · dsimp only
    rw [hr'] at hall
    rw [run_read hc', hused.entries, Reading.run_bind]
    unfold readSheets
    rw [hall]
    rfl
  · dsimp only
    rw [hr'] at hall
    refine ⟨_, ?_, hplace ▸ sameBut_ofSheets c xs zs entry.1 _
      (r'.mapError fun e => ⟨path, e⟩)⟩
    rw [run_read hc', hused.entries, Reading.run_bind]
    unfold readSheets
    rw [hall]
    rfl

/--
**A part can be replaced without harm to the rest of the file unless it breaks off the reading.** It
does so if it has a cell beyond durations before anything that makes it unreadable; then the reading of
the whole package ends in a fault.
-/
theorem read_replaced_iff {f : WorkbookFile} {path : String} {before after : List (String × String)}
    {entry : String × String} (hread : (read p).run = .ok (.ok f)) (hc : HasCommon p c)
    (hused : UsedOnce p c path before entry after)
    (hsame : ∀ q, q ≠ path → p'.find? q = p.find? q) :
    ((∃ f', (read p').run = .ok (.ok f')
        ∧ SameBut (keptNames c.rels before).length entry.1 f f') ↔ ¬ BreaksOff p' c path)
      ∧ (BreaksOff p' c path → (read p').run = .error .duration) := by
  have hreplaced := run_read_replaced hread hc hused hsame
  have hfault (h : BreaksOff p' c path) : (read p').run = .error .duration := by
    rw [Worksheet.run_read_eq_fault.mpr ⟨rfl, h⟩] at hreplaced
    exact hreplaced
  refine ⟨⟨?_, ?_⟩, hfault⟩
  · intro hgiven h
    obtain ⟨f', hf', _⟩ := hgiven
    rw [hfault h] at hf'
    cases hf'
  · intro h
    rcases hr : (Worksheet.read p' c.shared path).run with fault | r
    · exact absurd (Worksheet.run_read_eq_fault.mp hr).2 h
    · rw [hr] at hreplaced
      exact hreplaced

/-! ## A date without end -/

/-- A package with two sheets, the first one with some content, and with dates as its only style. -/
def twoSheets (content : String) : Package where
  parts := [("xl/a.xml", Markup.bytes content),
    (contentTypesPath, Markup.bytes "<Types/>"),
    (WorkbookPart.path, Markup.bytes ("<workbook>"
      ++ "<sheet name='A' r:id='x'/><sheet name='B' r:id='y'/></workbook>")),
    (Package.relationshipsPath WorkbookPart.path, Markup.bytes ("<Relationships>"
      ++ "<Relationship Id='x' Target='a.xml' Type='/worksheet'/>"
      ++ "<Relationship Id='y' Target='b.xml' Type='/worksheet'/></Relationships>")),
    ("xl/styles.xml", Markup.bytes "<cellXfs><xf numFmtId='14'/></cellXfs>"),
    ("xl/b.xml", Markup.bytes "<worksheet/>")]

/-- What is read of it before its sheets are. -/
def twoSheetsCommon : Common where
  strings := []
  styles := [{ isDate := true }]
  part := { sheets := [("A", "x"), ("B", "y")] }
  rels := SortedMap.ofList [("x", ⟨"a.xml", "/worksheet", false⟩),
    ("y", ⟨"b.xml", "/worksheet", false⟩)]

/-- What is read of it if its first sheet is empty. -/
def twoSheetsFile : WorkbookFile where
  sheets := [⟨"A", .ok {}⟩, ⟨"B", .ok {}⟩]
  printAreas := []
  dates := .from1900

theorem find?_twoSheets {q : String} (h : q ≠ "xl/a.xml") (content content' : String) :
    (twoSheets content').find? q = (twoSheets content).find? q := by
  simp only [Package.find?, twoSheets, List.lookup_cons, beq_false_of_ne h]

theorem hasCommon_twoSheets : HasCommon (twoSheets "<worksheet/>") twoSheetsCommon := by
  have hstrings : (twoSheets "<worksheet/>").events? .kept "xl/sharedStrings.xml" = none := by
    decide +kernel
  have hstyles : (twoSheets "<worksheet/>").events? .trimmed "xl/styles.xml"
      = some ⟨[.opening ⟨"cellXfs", []⟩, .selfClosing ⟨"xf", [("numFmtId", some "14")]⟩,
        .closing "cellXfs"], true⟩ := by
    decide +kernel
  have hpart : (twoSheets "<worksheet/>").events? .trimmed WorkbookPart.path
      = some ⟨[.opening ⟨"workbook", []⟩,
        .selfClosing ⟨"sheet", [("name", some "A"), ("r:id", some "x")]⟩,
        .selfClosing ⟨"sheet", [("name", some "B"), ("r:id", some "y")]⟩,
        .closing "workbook"], true⟩ := by
    decide +kernel
  have hrels : (twoSheets "<worksheet/>").events? .trimmed
        (Package.relationshipsPath WorkbookPart.path)
      = some ⟨[.opening ⟨"Relationships", []⟩,
        .selfClosing ⟨"Relationship", [("Id", some "x"), ("Target", some "a.xml"),
          ("Type", some "/worksheet")]⟩,
        .selfClosing ⟨"Relationship", [("Id", some "y"), ("Target", some "b.xml"),
          ("Type", some "/worksheet")]⟩, .closing "Relationships"], true⟩ := by
    decide +kernel
  refine ⟨by decide +kernel, ?_, ?_, ?_, ?_⟩
  · unfold SharedStrings.read; rw [hstrings]; rfl
  · unfold Styles.read; rw [hstyles]; rfl
  · unfold WorkbookPart.read; rw [hpart]; rfl
  · unfold Relationships.read?; rw [hrels]; rfl

theorem sheetPath?_a : sheetPath? twoSheetsCommon.rels "x" = some "xl/a.xml" := by decide +kernel

theorem sheetPath?_b : sheetPath? twoSheetsCommon.rels "y" = some "xl/b.xml" := by decide +kernel

theorem events_a : (twoSheets "<worksheet/>").events? .kept "xl/a.xml"
    = some ⟨[.selfClosing ⟨"worksheet", []⟩], true⟩ := by decide +kernel

theorem events_b : (twoSheets "<worksheet/>").events? .kept "xl/b.xml"
    = some ⟨[.selfClosing ⟨"worksheet", []⟩], true⟩ := by decide +kernel

theorem read_twoSheets : (read (twoSheets "<worksheet/>")).run = .ok (.ok twoSheetsFile) := by
  have ha : (Worksheet.read (twoSheets "<worksheet/>") twoSheetsCommon.shared "xl/a.xml").run
      = .ok (.ok {}) := Worksheet.run_read_of_bare events_a rfl rfl rfl
  have hb : (Worksheet.read (twoSheets "<worksheet/>") twoSheetsCommon.shared "xl/b.xml").run
      = .ok (.ok {}) := Worksheet.run_read_of_bare events_b rfl rfl rfl
  refine run_read_eq_ok.mpr ⟨_, [some ⟨"A", .ok {}⟩, some ⟨"B", .ok {}⟩], hasCommon_twoSheets,
    ?_, rfl⟩
  refine Reading.run_mapM_eq_ok.mpr (.cons ?_ (.cons ?_ .nil))
  · rw [run_readSheet, sheetPath?_a]
    dsimp only
    rw [ha]
    rfl
  · rw [run_readSheet, sheetPath?_b]
    dsimp only
    rw [hb]
    rfl

theorem usedOnce_twoSheets :
    UsedOnce (twoSheets "<worksheet/>") twoSheetsCommon "xl/a.xml" [] ("A", "x") [("B", "y")] where
  entries := rfl
  own := sheetPath?_a
  common := by decide +kernel
  others := by
    intro s hs path hpath
    have hs' : s = ("B", "y") := List.mem_singleton.mp hs
    rw [hs', sheetPath?_b] at hpath
    cases hpath
    intro h
    have heq := Worksheet.eq_of_looksAt events_b rfl rfl rfl h
    exact absurd heq (by decide)

/-- A sheet with a date of a million million days. -/
def endless : String := "<worksheet><c r='A1' s='0'><v>1000000000000</v></c></worksheet>"

theorem breaksOff_endless : BreaksOff (twoSheets endless) twoSheetsCommon "xl/a.xml" := by
  refine ⟨⟨[.opening ⟨"worksheet", []⟩, .opening ⟨"c", [("r", some "A1"), ("s", some "0")]⟩,
    .opening ⟨"v", []⟩, .text "1000000000000", .closing "v", .closing "c", .closing "worksheet"],
    true⟩, by decide +kernel, ?_⟩
  refine ⟨[.opening ⟨"worksheet", []⟩, .opening ⟨"c", [("r", some "A1"), ("s", some "0")]⟩,
    .opening ⟨"v", []⟩, .text "1000000000000", .closing "v"], [.closing "worksheet"],
    { cell := some ⟨"A1", none, some 0, some "1000000000000", ""⟩ }, _, rfl, rfl, rfl, ?_⟩
  have hvalue : (Text.float? (Text.trim "1000000000000")).bind SerialDate.ofFloat?
      = some ⟨1000000000000, 0⟩ := by decide +kernel
  obtain ⟨x, hx, hd⟩ := Option.bind_eq_some_iff.mp hvalue
  exact ⟨⟨⟨0, 0⟩, rfl⟩, .inl rfl, rfl, _, x, _, rfl, hx, hd, by decide⟩

/-- The empty first sheet is replaced by the endless one. -/
theorem read_replaced_iff_endless :
    (read (twoSheets "<worksheet/>")).run = .ok (.ok twoSheetsFile)
      ∧ ((∃ f', (read (twoSheets endless)).run = .ok (.ok f')
          ∧ SameBut (keptNames twoSheetsCommon.rels []).length "A" twoSheetsFile f')
        ↔ ¬ BreaksOff (twoSheets endless) twoSheetsCommon "xl/a.xml")
      ∧ (BreaksOff (twoSheets endless) twoSheetsCommon "xl/a.xml" →
        (read (twoSheets endless)).run = .error .duration) :=
  ⟨read_twoSheets, read_replaced_iff read_twoSheets hasCommon_twoSheets usedOnce_twoSheets
    fun _ h => find?_twoSheets h "<worksheet/>" endless⟩

/-- **And nothing is read**, though the part that was replaced is that of one sheet only. -/
theorem read_breaks_off_at_endless :
    (read (twoSheets "<worksheet/>")).run = .ok (.ok twoSheetsFile)
      ∧ UsedOnce (twoSheets "<worksheet/>") twoSheetsCommon "xl/a.xml" [] ("A", "x") [("B", "y")]
      ∧ (∀ q, q ≠ "xl/a.xml" → (twoSheets endless).find? q = (twoSheets "<worksheet/>").find? q)
      ∧ (read (twoSheets endless)).run = .error .duration := by
  have hsame : ∀ q, q ≠ "xl/a.xml" →
      (twoSheets endless).find? q = (twoSheets "<worksheet/>").find? q := by
    intro q h
    exact find?_twoSheets h "<worksheet/>" endless
  refine ⟨read_twoSheets, usedOnce_twoSheets, hsame, ?_⟩
  have hreplaced := run_read_replaced read_twoSheets hasCommon_twoSheets usedOnce_twoSheets hsame
  rw [Worksheet.run_read_eq_fault.mpr ⟨rfl, breaksOff_endless⟩] at hreplaced
  exact hreplaced

end Sheetwise.WorkbookFile
