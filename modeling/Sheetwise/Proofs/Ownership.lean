import Sheetwise.Proofs.Run

/-!
# Who owns a field

Every field of a sheet has one owner. What the file can tell is the file's, whatever the application
says; what the file cannot tell is the application's, as are the graphics, the charts and the pages.
So two runs with different applications agree on all that the file can tell, and they agree there with
a run that has no application.

A contribution meets its draft by position only, so it has to be shown that the answers at a position
are about the sheet at that position. Sheets of one name are drafted alike, and of their contributions
the last one counts, as do the last answers on the record.
-/

namespace Sheetwise.Extraction

/-- Two sheets of a name agree on what the file can tell. -/
structure SameFromFile (f : WorkbookFile) (o : Options) (t : TableThresholds) (name : String)
    (a b : Sheet) : Prop where
  cells : (f.rows name o.cellLinks).isOk = true → (f.metrics name).isOk = true →
    a.rows = b.rows ∧ a.metrics = b.metrics
  tables : (f.tableCandidates name t).isOk = true → a.tableCandidates = b.tableCandidates
  printAreas : (o.includePrintAreas = true → (f.areas name).isOk = true) →
    a.printAreas = b.printAreas
  colors : (o.includeColors = true → (f.colors name o.colors).isOk = true) → a.colors = b.colors

/-- What the file told of a sheet is on the sheet as told; what it was not asked is empty. -/
structure FromFile (f : WorkbookFile) (o : Options) (t : TableThresholds) (name : String)
    (sheet : Sheet) : Prop where
  cells : ∀ rows metrics, f.rows name o.cellLinks = .ok rows → f.metrics name = .ok metrics →
    sheet.rows = rows ∧ sheet.metrics = metrics
  tables : ∀ tables, f.tableCandidates name t = .ok tables → sheet.tableCandidates = tables
  printAreas : if o.includePrintAreas then ∀ areas, f.areas name = .ok areas → sheet.printAreas = areas
    else sheet.printAreas = []
  colors : if o.includeColors then ∀ colors, f.colors name o.colors = .ok colors → sheet.colors = colors
    else sheet.colors = ∅

/--
What the file cannot tell of a sheet, and what it is never asked, is what the application last answered
about that sheet. Where the application is not wanted, it fills nothing.
-/
structure FromApplication (f : WorkbookFile) (o : Options) (t : TableThresholds) (log : Record)
    (name : String) (sheet : Sheet) : Prop where
  shapes : if o.need = .required then
      ∃ drawn, log.LastAnswer (.graphics name) drawn
        ∧ sheet.shapes = Reported.Drawing.graphics drawn o.mode
    else sheet.shapes = []
  charts : if o.need = .required then
      ∃ charts, log.LastAnswer (.charts name) charts
        ∧ sheet.charts = charts.map Reported.Chart.chart
    else sheet.charts = []
  autoPrintAreas : if o.includeAutoPageBreaks then
      ∃ breaks, log.LastAnswer (.pageBreaks name) breaks ∧ sheet.autoPrintAreas = breaks.pages
    else sheet.autoPrintAreas = []
  cells : o.need ≠ .unused →
    (f.rows name o.cellLinks).isOk = false ∨ (f.metrics name).isOk = false →
    log.LastAnswer (.rows name o.cellLinks) sheet.rows ∧ log.LastAnswer (.metrics name) sheet.metrics
  tables : o.need ≠ .unused → (f.tableCandidates name t).isOk = false →
    log.LastAnswer (.tableCandidates name t) sheet.tableCandidates
  printAreas : o.need ≠ .unused → o.includePrintAreas = true → (f.areas name).isOk = false →
    log.LastAnswer (.printAreas name) sheet.printAreas
  colors : o.need ≠ .unused → o.includeColors = true → (f.colors name o.colors).isOk = false →
    log.LastAnswer (.colors name o.colors) sheet.colors

namespace SameFromFile

variable {f : WorkbookFile} {o : Options} {t : TableThresholds} {name : String} {a b c : Sheet}

theorem refl (a : Sheet) : SameFromFile f o t name a a :=
  ⟨fun _ _ => ⟨rfl, rfl⟩, fun _ => rfl, fun _ => rfl, fun _ => rfl⟩

theorem symm (h : SameFromFile f o t name a b) : SameFromFile f o t name b a where
  cells hr hm := ⟨(h.cells hr hm).1.symm, (h.cells hr hm).2.symm⟩
  tables ht := (h.tables ht).symm
  printAreas ha := (h.printAreas ha).symm
  colors hc := (h.colors hc).symm

theorem trans (h : SameFromFile f o t name a b) (h' : SameFromFile f o t name b c) :
    SameFromFile f o t name a c where
  cells hr hm := ⟨(h.cells hr hm).1.trans (h'.cells hr hm).1,
    (h.cells hr hm).2.trans (h'.cells hr hm).2⟩
  tables ht := (h.tables ht).trans (h'.tables ht)
  printAreas ha := (h.printAreas ha).trans (h'.printAreas ha)
  colors hc := (h.colors hc).trans (h'.colors hc)

end SameFromFile

/-! ## One sheet -/

section

variable (f : WorkbookFile) (o : Options) (t : TableThresholds) (name : String)

/-- The gaps of a draft are the steps that the file could not take. -/
theorem gaps_ofFile : (Draft.ofFile f o t name).1.gaps = {
    cells := !((f.rows name o.cellLinks).isOk && (f.metrics name).isOk)
    printAreas := o.includePrintAreas && !(f.areas name).isOk
    colors := o.includeColors && !(f.colors name o.colors).isOk
    tables := !(f.tableCandidates name t).isOk } := by
  unfold Draft.ofFile
  dsimp only
  rw [Bool.not_not, Bool.not_not]
  congr 1
  · cases o.includePrintAreas <;> rfl
  · cases o.includeColors <;> rfl

variable {f o t name}

/-- What the file told is drafted as told. -/
theorem fromFile_ofFile : FromFile f o t name (Draft.ofFile f o t name).1.sheet where
  cells rows metrics hrows hmetrics := by
    simp only [Draft.ofFile, hrows, hmetrics]
    exact ⟨rfl, rfl⟩
  tables tables htables := by
    simp only [Draft.ofFile, htables]
    rfl
  printAreas := by
    simp only [Draft.ofFile]
    split
    · intro areas hareas
      rw [hareas]
      rfl
    · rfl
  colors := by
    simp only [Draft.ofFile]
    split
    · intro colors hcolors
      rw [hcolors]
      rfl
    · rfl

/-- What is not asked is not answered. -/
theorem eq_none_of_isSome {α : Type} {y : Option α} {gap : Bool} (hy : y.isSome = gap)
    (hg : gap = false) : y = none := by
  rw [← Option.not_isSome_iff_eq_none, hy, hg]
  exact Bool.false_ne_true

/-- What is asked is answered, and the answer is the last one on the record. -/
theorem exists_lastAnswer {x : Answers} {log : Record}
    (hlog : ∀ q a, ⟨q, some a⟩ ∈ x.entries name o t → log.LastAnswer q a) (q : Question)
    {y : Option q.Answer} {gap : Bool} (hmem : ⟨q, y⟩ ∈ x.entries name o t) (hy : y.isSome = gap)
    (hg : gap = true) : ∃ a, y = some a ∧ log.LastAnswer q a := by
  obtain ⟨a, rfl⟩ := Option.isSome_iff_exists.mp (hy.trans hg)
  exact ⟨a, rfl, hlog q a hmem⟩

/-- What there is no gap for, a contribution that fits does not change. -/
theorem sameFromFile_merge {x : Answers} (hx : x.Fits (Draft.ofFile f o t name).1 o) :
    SameFromFile f o t name ((Draft.ofFile f o t name).1.merge (x.contribution o.mode))
      (Draft.ofFile f o t name).1.sheet := by
  have hgaps := gaps_ofFile f o t name
  constructor
  · intro hr hm
    have h : x.cells = none := eq_none_of_isSome hx.cells (by rw [hgaps, hr, hm]; rfl)
    simp only [Draft.merge, Answers.contribution, h]
    exact ⟨rfl, rfl⟩
  · intro ht
    have h : x.tables = none := eq_none_of_isSome hx.tables (by rw [hgaps, ht]; rfl)
    simp only [Draft.merge, Answers.contribution, h]
    rfl
  · intro ha
    have hclosed : (Draft.ofFile f o t name).1.gaps.printAreas = false := by
      rw [hgaps]
      cases hi : o.includePrintAreas with
      | false => rfl
      | true => rw [ha hi]; rfl
    have h : x.printAreas = none := eq_none_of_isSome hx.printAreas hclosed
    simp only [Draft.merge, Answers.contribution, h]
    rfl
  · intro hc
    have hclosed : (Draft.ofFile f o t name).1.gaps.colors = false := by
      rw [hgaps]
      cases hi : o.includeColors with
      | false => rfl
      | true => rw [hc hi]; rfl
    have h : x.colors = none := eq_none_of_isSome hx.colors hclosed
    simp only [Draft.merge, Answers.contribution, h]
    rfl

/-- What there is a gap for, and what only the application can tell, is as answered. -/
theorem fromApplication_merge {x : Answers} {log : Record}
    (hx : x.Fits (Draft.ofFile f o t name).1 o)
    (hlog : ∀ q a, ⟨q, some a⟩ ∈ x.entries name o t → log.LastAnswer q a) :
    FromApplication f o t log name
      ((Draft.ofFile f o t name).1.merge (x.contribution o.mode)) := by
  have hgaps := gaps_ofFile f o t name
  constructor
  · split
    · next hn =>
      obtain ⟨drawn, h, hl⟩ := exists_lastAnswer hlog (.graphics name) (y := x.graphics)
        (by simp [Answers.entries]) hx.graphics (decide_eq_true hn)
      refine ⟨drawn, hl, ?_⟩
      simp only [Draft.merge, Answers.contribution, h]
      rfl
    · next hn =>
      have h := eq_none_of_isSome hx.graphics (decide_eq_false hn)
      simp only [Draft.merge, Answers.contribution, h, Option.map_none, Option.getD_none]
  · split
    · next hn =>
      obtain ⟨charts, h, hl⟩ := exists_lastAnswer hlog (.charts name) (y := x.charts)
        (by simp [Answers.entries]) hx.charts (decide_eq_true hn)
      refine ⟨charts, hl, ?_⟩
      simp only [Draft.merge, Answers.contribution, h]
      rfl
    · next hn =>
      have h := eq_none_of_isSome hx.charts (decide_eq_false hn)
      simp only [Draft.merge, Answers.contribution, h, Option.map_none, Option.getD_none]
  · split
    · next hp =>
      obtain ⟨breaks, h, hl⟩ := exists_lastAnswer hlog (.pageBreaks name) (y := x.pageBreaks)
        (by simp [Answers.entries]) hx.pageBreaks hp
      refine ⟨breaks, hl, ?_⟩
      simp only [Draft.merge, Answers.contribution, h]
      rfl
    · next hp =>
      have h := eq_none_of_isSome hx.pageBreaks (Bool.eq_false_iff.mpr hp)
      simp only [Draft.merge, Answers.contribution, h, Option.map_none, Option.getD_none]
  · intro _ hgap
    have hopen : (Draft.ofFile f o t name).1.gaps.cells = true := by
      rw [hgaps]
      rcases hgap with hgap | hgap
      · rw [hgap]; rfl
      · rw [hgap, Bool.and_false]; rfl
    obtain ⟨cells, h⟩ := Option.isSome_iff_exists.mp (hx.cells.trans hopen)
    have hrows : ⟨.rows name o.cellLinks, x.cells.map Prod.fst⟩ ∈ x.entries name o t := by
      simp [Answers.entries]
    have hmetrics : ⟨.metrics name, x.cells.map Prod.snd⟩ ∈ x.entries name o t := by
      simp [Answers.entries]
    simp only [Draft.merge, Answers.contribution, h]
    rw [h] at hrows hmetrics
    exact ⟨hlog _ _ hrows, hlog _ _ hmetrics⟩
  · intro _ hgap
    obtain ⟨tables, h, hl⟩ := exists_lastAnswer hlog (.tableCandidates name t) (y := x.tables)
      (by simp [Answers.entries]) hx.tables (by rw [hgaps, hgap]; rfl)
    simp only [Draft.merge, Answers.contribution, h]
    exact hl
  · intro _ hi hgap
    obtain ⟨areas, h, hl⟩ := exists_lastAnswer hlog (.printAreas name) (y := x.printAreas)
      (by simp [Answers.entries]) hx.printAreas (by rw [hgaps, hi, hgap]; rfl)
    simp only [Draft.merge, Answers.contribution, h]
    exact hl
  · intro _ hi hgap
    obtain ⟨colors, h, hl⟩ := exists_lastAnswer hlog (.colors name o.colors) (y := x.colors)
      (by simp [Answers.entries]) hx.colors (by rw [hgaps, hi, hgap]; rfl)
    simp only [Draft.merge, Answers.contribution, h]
    exact hl

end

/-! ## All sheets -/

section

variable {f : WorkbookFile} {o : Options} {t : TableThresholds}

theorem MadeOf.names {ds : List Draft} {log : Record} {cs : List Contribution}
    (h : MadeOf o t ds log cs) : (merged ds cs).map Prod.fst = ds.map Draft.name := by
  induction h with
  | nil => rfl
  | cons _ _ ih =>
      unfold merged at ih ⊢
      rw [List.zip_cons_cons, List.map_cons, List.map_cons, List.map_cons, ih]

/-- All that is asked is asked about one of the sheets. -/
theorem MadeOf.sheet_of_mem {ds : List Draft} {log : Record} {cs : List Contribution}
    (h : MadeOf o t ds log cs) {y : Exchange} (hy : y ∈ log) :
    ∃ d ∈ ds, y.question.sheet? = some d.name := by
  induction h with
  | nil => simp at hy
  | @cons d ds first rest c cs hd _ ih =>
      obtain ⟨x, _, rfl, _⟩ := hd
      rcases List.mem_append.mp hy with hy | hy
      · exact ⟨d, List.mem_cons_self, Answers.sheet_of_mem_record hy⟩
      · obtain ⟨d', hd', hs⟩ := ih hy
        exact ⟨d', List.mem_cons_of_mem d hd', hs⟩

/--
The sheet under a name is the last draft of that name merged with the contribution at its place, and
that is made of the last answers about sheets of that name.
-/
theorem MadeOf.last {ds : List Draft} {log : Record} {cs : List Contribution}
    (h : MadeOf o t ds log cs) {name : String} (hname : name ∈ ds.map Draft.name) :
    ∃ d ∈ ds, d.name = name ∧ ∃ x : Answers, x.Fits d o
      ∧ (Named.ofList (merged ds cs)).get? name = some (d.merge (x.contribution o.mode))
      ∧ ∀ q a, ⟨q, some a⟩ ∈ x.entries name o t → log.LastAnswer q a := by
  induction h with
  | nil => simp at hname
  | @cons d ds first rest c cs hd hrest ih =>
      have hrest : MadeOf o t ds rest cs := hrest
      obtain ⟨x, hfits, rfl, rfl⟩ := hd
      have hcons : merged (d :: ds) (x.contribution o.mode :: cs)
          = (d.name, d.merge (x.contribution o.mode)) :: merged ds cs := rfl
      rw [hcons, Named.get?_ofList_cons, hrest.names]
      by_cases hlater : name ∈ ds.map Draft.name
      · -- a later sheet of the name takes the place of this one
        obtain ⟨d', hd', hn, x', hfits', hget, hlog⟩ := ih hlater
        refine ⟨d', List.mem_cons_of_mem d hd', hn, x', hfits', ?_, ?_⟩
        · rw [if_pos hlater, hget]
        · intro q a hq
          exact (hlog q a hq).append_right
      · have hn : name = d.name := by
          rcases List.mem_cons.mp hname with hn | hn
          · exact hn
          · exact absurd hn hlater
        refine ⟨d, List.mem_cons_self, hn.symm, x, hfits, ?_, ?_⟩
        · rw [if_neg hlater, if_pos hn]
        · intro q a hq
          subst hn
          refine (Answers.lastAnswer_record x hq).append_left ?_
          rintro y hy rfl
          obtain ⟨d', hd', hs⟩ := hrest.sheet_of_mem hy
          have hs' : y.question.sheet? = some d.name := Answers.sheet_of_mem_entries hq
          rw [hs'] at hs
          rw [Option.some.inj hs] at hlater
          exact hlater (List.mem_map_of_mem hd')

/-- Every sheet of the file is in the workbook of its drafts, as drafted. -/
theorem get?_fromFile (f : WorkbookFile) (o : Options) (t : TableThresholds) (fileName : String)
    {name : String} (h : name ∈ f.sheetNames) :
    (workbookOf fileName (fromFile (drafts f o t))).sheets.get? name
      = some (Draft.ofFile f o t name).1.sheet := by
  have hmem : name ∈ (fromFile (drafts f o t)).map Prod.fst := by
    unfold fromFile
    rw [List.map_map, ← names_drafts f o t] at *
    exact h
  obtain ⟨sheet, hget⟩ : ∃ sheet, (workbookOf fileName (fromFile (drafts f o t))).sheets.get? name
      = some sheet := Named.exists_get?_ofList hmem
  rw [← eq_ofFile_of_get? hget]
  exact hget

theorem names_fromFile (f : WorkbookFile) (o : Options) (t : TableThresholds) (fileName : String) :
    (workbookOf fileName (fromFile (drafts f o t))).sheets.names = f.sheetNames.eraseDups := by
  unfold workbookOf fromFile
  rw [Named.names_ofList, List.map_map, ← names_drafts f o t]
  rfl

/-- A draft that nothing was wanted for has from the application what it is to have. -/
theorem fromApplication_unused (log : Record) (name : String) (hneed : o.need = .unused) :
    FromApplication f o t log name (Draft.ofFile f o t name).1.sheet := by
  have hlight : ¬ o.need = .required := by rw [hneed]; decide
  have hpages : o.includeAutoPageBreaks = false := by
    unfold Options.need at hneed
    cases hp : o.includeAutoPageBreaks with
    | false => rfl
    | true =>
        rw [hp] at hneed
        cases hm : o.mode <;> rw [hm] at hneed <;> cases hneed
  refine ⟨?_, ?_, ?_, fun h => absurd hneed h, fun h => absurd hneed h, fun h => absurd hneed h,
    fun h => absurd hneed h⟩
  · rw [if_neg hlight]; rfl
  · rw [if_neg hlight]; rfl
  · rw [hpages]; rfl

/-- What a workbook has when the application answered all that it was asked. -/
structure Owned (f : WorkbookFile) (o : Options) (t : TableThresholds) (log : Record)
    (x : Extraction) : Prop where
  names : x.workbook.sheets.names = f.sheetNames.eraseDups
  sheets : ∀ name ∈ f.sheetNames, ∃ sheet, x.workbook.sheets.get? name = some sheet
    ∧ SameFromFile f o t name sheet (Draft.ofFile f o t name).1.sheet
    ∧ FromApplication f o t log name sheet

/-- Contributions to all sheets give every field to its owner. -/
theorem MadeOf.owned {log : Record} {cs : List Contribution} (fileName : String)
    (h : MadeOf o t (drafts f o t) log cs) :
    Owned f o t (⟨.connect, .ok ()⟩ :: log) (concluded fileName (drafts f o t) (.ok cs)) where
  names := by
    show (Named.ofList (merged (drafts f o t) cs)).names = _
    rw [Named.names_ofList, h.names, names_drafts]
  sheets := by
    intro name hname
    rw [← names_drafts f o t] at hname
    obtain ⟨d, hd, rfl, x, hfits, hget, hlog⟩ := h.last hname
    have hd' := eq_ofFile_of_mem_drafts hd
    rw [hd'] at hfits hget
    refine ⟨_, hget, sameFromFile_merge hfits, fromApplication_merge hfits ?_⟩
    intro q a hq
    exact (hlog q a hq).append_right (l := [⟨.connect, .ok ()⟩])

/-- **A run in which all calls are answered gives every field to its owner.** -/
theorem gives_owned {σ : Type} (connector : Connector σ) (o : Options) (inForce : TableThresholds)
    {fileName : String} {source : Except ReadError Package} (s : σ)
    (hname : isWorkbookName fileName = true)
    (hread : (liftExcept source >>= WorkbookFile.read : Reading WorkbookFile).run = .ok (.ok f)) :
    ∃ x log, Gives connector o inForce fileName source s x log
      ∧ (log.Answered → Owned f o (thresholds o inForce) log x) := by
  by_cases hneed : o.need = .unused
  · obtain ⟨fb, hgives⟩ := gives_unused connector o inForce s hname hread hneed
    refine ⟨_, [], hgives, fun _ => ⟨names_fromFile f o _ fileName, fun name hmem => ?_⟩⟩
    exact ⟨_, get?_fromFile f o _ fileName hmem, SameFromFile.refl _,
      fromApplication_unused [] name hneed⟩
  · obtain ⟨result, log, hgives, hasked⟩ := gives_concluded connector o inForce s hname hread hneed
    refine ⟨_, log, hgives, fun hanswered => ?_⟩
    cases result with
    | error fb =>
        obtain ⟨_, _, _, _, _, _, hstops, _⟩ := hasked
        exact absurd hanswered hstops.not_answered
    | ok cs =>
        obtain ⟨rest, rfl, _, hmade⟩ := hasked
        exact hmade.owned fileName

end

/-! ## Two runs -/

/--
What two runs with different applications have in common, and with the run that has none: `x₁` and `x₂`
are what they gave, with `log₁` and `log₂` on the record, and `x₀` is what the file alone gives, which
is what the file told.
-/
structure Ownership (f : WorkbookFile) (o : Options) (t : TableThresholds) (x₁ x₂ x₀ : Extraction)
    (log₁ log₂ : Record) : Prop where
  names : x₁.workbook.sheets.names = x₂.workbook.sheets.names
    ∧ x₁.workbook.sheets.names = x₀.workbook.sheets.names
  sheets : ∀ name ∈ f.sheetNames, ∃ sheet₁ sheet₂ sheet₀,
    x₁.workbook.sheets.get? name = some sheet₁ ∧ x₂.workbook.sheets.get? name = some sheet₂
      ∧ x₀.workbook.sheets.get? name = some sheet₀
      ∧ SameFromFile f o t name sheet₁ sheet₂ ∧ SameFromFile f o t name sheet₁ sheet₀
      ∧ FromFile f o t name sheet₀
      ∧ FromApplication f o t log₁ name sheet₁ ∧ FromApplication f o t log₂ name sheet₂

/--
**The file owns what it can tell, and the application the rest.** Two runs on a file, with any two
applications that answer all that they are asked, have the same sheets and agree on every field that
the file could tell, with each other, with the run on the file alone and with what the file told; every
other field is what the application of that run answered about that same sheet.
-/
theorem run_ownership {σ₁ σ₂ : Type} (first : Connector σ₁) (second : Connector σ₂) (o : Options)
    (inForce : TableThresholds) {fileName : String} {source : Except ReadError Package}
    {f : WorkbookFile} (s₁ : σ₁) (s₂ : σ₂) (hname : isWorkbookName fileName = true)
    (hread : (liftExcept source >>= WorkbookFile.read : Reading WorkbookFile).run = .ok (.ok f)) :
    ∃ x₁ log₁ x₂ log₂ x₀ log₀,
      Gives first o inForce fileName source s₁ x₁ log₁
      ∧ Gives second o inForce fileName source s₂ x₂ log₂
      ∧ Gives Connector.absent o inForce fileName source () x₀ log₀
      ∧ (log₁.Answered → log₂.Answered →
        Ownership f o (thresholds o inForce) x₁ x₂ x₀ log₁ log₂) := by
  obtain ⟨x₁, log₁, hgives₁, howned₁⟩ := gives_owned first o inForce s₁ hname hread
  obtain ⟨x₂, log₂, hgives₂, howned₂⟩ := gives_owned second o inForce s₂ hname hread
  obtain ⟨fb, log₀, hgives₀⟩ := gives_absent o inForce hname hread
  refine ⟨x₁, log₁, x₂, log₂, _, log₀, hgives₁, hgives₂, hgives₀, fun hanswered₁ hanswered₂ => ?_⟩
  have h₁ := howned₁ hanswered₁
  have h₂ := howned₂ hanswered₂
  refine ⟨⟨h₁.names.trans h₂.names.symm, h₁.names.trans (names_fromFile f o _ fileName).symm⟩, ?_⟩
  intro name hmem
  obtain ⟨sheet₁, hget₁, hsame₁, happ₁⟩ := h₁.sheets name hmem
  obtain ⟨sheet₂, hget₂, hsame₂, happ₂⟩ := h₂.sheets name hmem
  exact ⟨sheet₁, sheet₂, _, hget₁, hget₂, get?_fromFile f o _ fileName hmem,
    hsame₁.trans hsame₂.symm, hsame₁, fromFile_ofFile, happ₁, happ₂⟩

/-- Two applications tell different tables of a sheet that the file knows nothing about. -/
theorem run_ownership_of_lonely :
    isWorkbookName "a.xlsx" = true
      ∧ ∃ x₁ log₁ x₂ log₂ x₀ log₀,
        Gives (terse (.ok []) ["A1:B2"]) {} .standard "a.xlsx" (.ok lonely) () x₁ log₁
        ∧ Gives (terse (.ok []) ["C3:D4"]) {} .standard "a.xlsx" (.ok lonely) () x₂ log₂
        ∧ Gives Connector.absent {} .standard "a.xlsx" (.ok lonely) () x₀ log₀
        ∧ Ownership lonelyFile {} (thresholds {} .standard) x₁ x₂ x₀ log₁ log₂ := by
  have hname : isWorkbookName "a.xlsx" = true := by decide +kernel
  obtain ⟨x₁, log₁, x₂, log₂, x₀, log₀, hgives₁, hgives₂, habsent, h⟩ := run_ownership
    (terse (.ok []) ["A1:B2"]) (terse (.ok []) ["C3:D4"]) {} .standard () () hname read_lonely
  have hall {tables : List String} {x : Extraction} {log : Record}
      (hgives : Gives (terse (.ok []) tables) {} .standard "a.xlsx" (.ok lonely) () x log) :
      log.Answered := by
    have hnone : log.all (fun y => y.failure?.isNone) = true := by
      rw [eq_of_gives_terse hgives]
      rfl
    intro y hy
    exact Option.isNone_iff_eq_none.mp (List.all_eq_true.mp hnone y hy)
  exact ⟨hname, x₁, log₁, x₂, log₂, x₀, log₀, hgives₁, hgives₂, habsent,
    h (hall hgives₁) (hall hgives₂)⟩

end Sheetwise.Extraction
