import Sheetwise.Proofs.Contribution
import Sheetwise.Proofs.Named

/-!
# Runs of an extraction and their records

An extraction opens the workbook in the application, asks about sheet after sheet, and makes its result
of what came back. Watching the application changes nothing of that. The record it leaves begins with
the opening; then it holds the questions about every sheet, all answered, or it ends with the one that
failed.
-/

namespace Sheetwise.Extraction

/-- The thresholds in force for a run. -/
abbrev thresholds (o : Options) (inForce : TableThresholds) : TableThresholds :=
  o.tableThresholds inForce

/-- The sheets of a file as a run drafts them. -/
def drafts (f : WorkbookFile) (o : Options) (t : TableThresholds) : List Draft :=
  (f.sheetNames.map (Draft.ofFile f o t)).map Prod.fst

/-- The sheets of a run to which the application contributed. -/
def merged (ds : List Draft) (cs : List Contribution) : List (String × Sheet) :=
  (ds.zip cs).map fun p => (p.1.name, p.1.merge p.2)

/-- What comes of a run, by what the application contributed or why it did not. -/
def concluded (fileName : String) (ds : List Draft) :
    Except Fallback (List Contribution) → Extraction
  | .ok cs => ⟨workbookOf fileName (merged ds cs), none⟩
  | .error fb => ⟨workbookOf fileName (fromFile ds), some fb⟩

/-- The run of which that comes. -/
def conclude (o : Options) (t : TableThresholds) (fileName : String) (f : WorkbookFile)
    (result : Except Fallback (List Contribution)) : Run where
  stages := [.selectSources, .readFile, .askApplication, .merge, .done]
  notices := (f.sheetNames.map (Draft.ofFile f o t)).flatMap Prod.snd ++
    match result with
    | .ok _ => []
    | .error fb => [.fallback fb o.need]
  result := .ok (concluded fileName (drafts f o t) result)

/-- The contributions to some sheets, each made of answers about its own sheet. -/
def MadeOf (o : Options) (t : TableThresholds) : List Draft → Record → List Contribution → Prop :=
  Pieces fun d new c => ∃ x : Answers, x.Fits d o ∧ new = x.record d.name o t
    ∧ c = x.contribution o.mode

/--
What is on the record when the application has been asked: the opening of the workbook, and then the
questions about the sheets, up to the first call that failed.
-/
def Asked (o : Options) (t : TableThresholds) (ds : List Draft) (log : Record) :
    Except Fallback (List Contribution) → Prop
  | .ok cs => ∃ rest : Record, log = ⟨.connect, .ok ()⟩ :: rest ∧ rest.Answered ∧ MadeOf o t ds rest cs
  | .error fb => ∃ first, ∃ rest : Record, ∃ last e, log = first :: rest ∧ first.question = .connect
      ∧ log.StopsAt last e
      ∧ fb = ⟨if first.failure?.isSome then .unavailable else .failed, e.message⟩

/-! ## Drafts -/

theorem names_drafts (f : WorkbookFile) (o : Options) (t : TableThresholds) :
    (drafts f o t).map Draft.name = f.sheetNames := by
  unfold drafts
  rw [List.map_map, List.map_map]
  exact List.map_id f.sheetNames

/-- Sheets of one name are drafted alike. -/
theorem eq_ofFile_of_mem_drafts {f : WorkbookFile} {o : Options} {t : TableThresholds} {d : Draft}
    (h : d ∈ drafts f o t) : d = (Draft.ofFile f o t d.name).1 := by
  obtain ⟨p, hp, rfl⟩ := List.mem_map.mp h
  obtain ⟨n, _, rfl⟩ := List.mem_map.mp hp
  rfl

/-- A sheet of the workbook as drafted is the draft of a sheet of its name. -/
theorem eq_ofFile_of_get? {f : WorkbookFile} {o : Options} {t : TableThresholds}
    {fileName name : String} {sheet : Sheet}
    (h : (workbookOf fileName (fromFile (drafts f o t))).sheets.get? name = some sheet) :
    sheet = (Draft.ofFile f o t name).1.sheet := by
  obtain ⟨before, after, heq, _⟩ := Named.get?_ofList_eq_some_iff.mp h
  have hmem : (name, sheet) ∈ fromFile (drafts f o t) := by rw [heq]; simp
  obtain ⟨d, hd, hpair⟩ := List.mem_map.mp hmem
  cases hpair
  exact congrArg Draft.sheet (eq_ofFile_of_mem_drafts hd)

/-! ## Asking about all sheets -/

section

variable {σ : Type}

/-- An application that cannot be reached contributes nothing. -/
theorem contributions_of_error {connector : Connector σ} {s s' : σ} {e : SourceError}
    (h : connector.connect.answer s = (.error e, s')) (o : Options) (t : TableThresholds)
    (ds : List Draft) :
    (contributions connector o t ds).run s = (.error ⟨.unavailable, e.message⟩, s') := by
  unfold Query.answer at h
  unfold contributions
  rw [StateT.run_bind, h]
  rfl

/-- One that can be reached contributes what it answers about the sheets, and is closed after that. -/
theorem contributions_of_ok {connector : Connector σ} {s s' : σ} {app : Application σ}
    (h : connector.connect.answer s = (.ok app, s')) (o : Options) (t : TableThresholds)
    (ds : List Draft) :
    (contributions connector o t ds).run s
      = ((((ds.mapM fun (d : Draft) => d.contribution app o t).answer s').1).mapError
          fun e => ⟨.failed, e.message⟩,
        app.close ((ds.mapM fun (d : Draft) => d.contribution app o t).answer s').2) := by
  unfold Query.answer at h
  unfold contributions
  rw [StateT.run_bind, h]
  rfl

/-- **Watching the application changes nothing, and the record is as it should be.** -/
theorem contributions_watched (connector : Connector σ) (o : Options) (t : TableThresholds)
    (ds : List Draft) (s : σ) :
    ∃ log, (contributions connector.watched o t ds).run (s, [])
        = (((contributions connector o t ds).run s).1,
            ((contributions connector o t ds).run s).2, log)
      ∧ Asked o t ds log ((contributions connector o t ds).run s).1 := by
  have hconnect : connector.watched.connect.answer (s, [])
      = ((connector.connect.answer s).1.map Application.watched, (connector.connect.answer s).2,
          [⟨.connect, (connector.connect.answer s).1.map fun _ => ()⟩]) := rfl
  -- the first call decides whether there are more
  rcases hanswer : connector.connect.answer s with ⟨e | app, s'⟩
  · rw [hanswer] at hconnect
    rw [contributions_of_error hanswer, contributions_of_error hconnect]
    exact ⟨_, rfl, _, [], _, e, rfl, rfl, ⟨[], rfl, Record.answered_nil, rfl⟩, rfl⟩
  · rw [hanswer] at hconnect
    rw [contributions_of_ok hanswer, contributions_of_ok hconnect]
    obtain ⟨new, heq, ho⟩ :=
      records_mapM (fun d => records_contribution d app o t) ds s' [⟨.connect, .ok ()⟩]
    refine ⟨⟨.connect, .ok ()⟩ :: new, ?_, ?_⟩
    · dsimp only [Except.map]
      rw [heq]
      rfl
    · have hopen : Record.Answered [⟨.connect, .ok ()⟩] := by
        intro x hx
        rw [List.mem_singleton.mp hx]; rfl
      dsimp only
      generalize ((ds.mapM fun (d : Draft) => d.contribution app o t).answer s').1 = result at ho
      cases result with
      | error e =>
          obtain ⟨last, hl⟩ := ho
          exact ⟨_, new, last, e, rfl, rfl, Record.stopsAt_append hopen hl, rfl⟩
      | ok cs => exact ⟨new, rfl, ho.1, ho.2⟩

/-! ## The run as a whole -/

/-- Where the application is wanted, the run is concluded from what it contributed. -/
theorem ofFile_run (connector : Connector σ) (o : Options) (inForce : TableThresholds)
    (fileName : String) (f : WorkbookFile) (s : σ) (hneed : o.need ≠ .unused) :
    (ofFile connector o inForce fileName f).run s
      = let out := (contributions connector o (thresholds o inForce)
          (drafts f o (thresholds o inForce))).run s
        (conclude o (thresholds o inForce) fileName f out.1, out.2) := by
  unfold ofFile
  dsimp only
  rw [if_neg hneed, StateT.run_bind]
  generalize hout : (contributions connector o (thresholds o inForce)
    (drafts f o (thresholds o inForce))).run s = out
  unfold drafts at hout
  rw [hout]
  rcases out with ⟨fb | cs, s'⟩ <;> rfl

/-- **A run watched is the same run**, with what was asked on the record. -/
theorem ofFile_watched (connector : Connector σ) (o : Options) (inForce : TableThresholds)
    (fileName : String) (f : WorkbookFile) (s : σ) (hneed : o.need ≠ .unused) :
    ∃ result s' log,
      (ofFile connector o inForce fileName f).run s
        = (conclude o (thresholds o inForce) fileName f result, s')
      ∧ (ofFile connector.watched o inForce fileName f).run (s, [])
        = (conclude o (thresholds o inForce) fileName f result, s', log)
      ∧ Asked o (thresholds o inForce) (drafts f o (thresholds o inForce)) log result := by
  obtain ⟨log, heq, hasked⟩ := contributions_watched connector o (thresholds o inForce)
    (drafts f o (thresholds o inForce)) s
  refine ⟨_, _, log, ofFile_run connector o inForce fileName f s hneed, ?_, hasked⟩
  rw [ofFile_run _ _ _ _ _ _ hneed, heq]

/-- A file that can be read is extracted from; what comes of it is up to the application. -/
theorem run_eq_ofFile (connector : Connector σ) (o : Options) (inForce : TableThresholds)
    {fileName : String} {source : Except ReadError Package} {f : WorkbookFile} (s : σ)
    (hname : isWorkbookName fileName = true)
    (hread : (liftExcept source >>= WorkbookFile.read : Reading WorkbookFile).run = .ok (.ok f)) :
    run connector o inForce fileName source s
      = .ok ((ofFile connector o inForce fileName f).run s) := by
  unfold run
  rw [hname, hread]
  rfl

/-- The run gives `x`, and the same if it is watched, with `log` on the record. -/
def Gives (connector : Connector σ) (o : Options) (inForce : TableThresholds) (fileName : String)
    (source : Except ReadError Package) (s : σ) (x : Extraction) (log : Record) : Prop :=
  ∃ r s', run connector o inForce fileName source s = .ok (r, s')
    ∧ run connector.watched o inForce fileName source (s, []) = .ok (r, s', log)
    ∧ r.result = .ok x

/-- Where the application is wanted, it is asked, and what comes of that decides. -/
theorem gives_concluded (connector : Connector σ) (o : Options) (inForce : TableThresholds)
    {fileName : String} {source : Except ReadError Package} {f : WorkbookFile} (s : σ)
    (hname : isWorkbookName fileName = true)
    (hread : (liftExcept source >>= WorkbookFile.read : Reading WorkbookFile).run = .ok (.ok f))
    (hneed : o.need ≠ .unused) :
    ∃ result log, Gives connector o inForce fileName source s
        (concluded fileName (drafts f o (thresholds o inForce)) result) log
      ∧ Asked o (thresholds o inForce) (drafts f o (thresholds o inForce)) log result := by
  obtain ⟨result, s', log, hrun, hwatched, hasked⟩ :=
    ofFile_watched connector o inForce fileName f s hneed
  refine ⟨result, log, ⟨conclude o (thresholds o inForce) fileName f result, s', ?_, ?_, rfl⟩, hasked⟩
  · rw [run_eq_ofFile _ _ _ _ hname hread, hrun]
  · rw [run_eq_ofFile _ _ _ _ hname hread, hwatched]

/-- Where the application is not wanted, the run is concluded from the drafts. -/
theorem ofFile_unused (connector : Connector σ) (o : Options) (inForce : TableThresholds)
    (fileName : String) (f : WorkbookFile) (s : σ) (hneed : o.need = .unused) :
    (ofFile connector o inForce fileName f).run s
      = ({ stages := [.selectSources, .readFile, .skipApplication, .merge, .done]
           notices := (f.sheetNames.map (Draft.ofFile f o (thresholds o inForce))).flatMap Prod.snd
            ++ [.skipped o.mode]
           result := .ok (concluded fileName (drafts f o (thresholds o inForce)) (.error
            ⟨.disabled, "automation is not used in " ++ o.mode.name ++ " mode"⟩)) }, s) := by
  unfold ofFile
  rw [if_pos hneed]
  rfl

/-- An application that is not wanted is not asked anything. -/
theorem gives_unused (connector : Connector σ) (o : Options) (inForce : TableThresholds)
    {fileName : String} {source : Except ReadError Package} {f : WorkbookFile} (s : σ)
    (hname : isWorkbookName fileName = true)
    (hread : (liftExcept source >>= WorkbookFile.read : Reading WorkbookFile).run = .ok (.ok f))
    (hneed : o.need = .unused) :
    ∃ fb, Gives connector o inForce fileName source s
      (concluded fileName (drafts f o (thresholds o inForce)) (.error fb)) [] := by
  have hrun := ofFile_unused connector o inForce fileName f s hneed
  have hwatched := ofFile_unused connector.watched o inForce fileName f (s, []) hneed
  rw [← Except.ok.injEq (ε := Fault), ← run_eq_ofFile _ _ _ _ hname hread] at hrun hwatched
  exact ⟨_, _, s, hrun, hwatched, rfl⟩

/-- Without an application, the run is concluded from the drafts. -/
theorem gives_absent (o : Options) (inForce : TableThresholds) {fileName : String}
    {source : Except ReadError Package} {f : WorkbookFile} (hname : isWorkbookName fileName = true)
    (hread : (liftExcept source >>= WorkbookFile.read : Reading WorkbookFile).run = .ok (.ok f)) :
    ∃ fb log, Gives Connector.absent o inForce fileName source ()
      (concluded fileName (drafts f o (thresholds o inForce)) (.error fb)) log := by
  by_cases hneed : o.need = .unused
  · obtain ⟨fb, h⟩ := gives_unused Connector.absent o inForce () hname hread hneed
    exact ⟨fb, [], h⟩
  · have hrun := ofFile_run Connector.absent o inForce fileName f () hneed
    have hwatched := ofFile_run Connector.absent.watched o inForce fileName f ((), []) hneed
    rw [contributions_of_error rfl, ← Except.ok.injEq (ε := Fault),
      ← run_eq_ofFile _ _ _ _ hname hread] at hrun hwatched
    exact ⟨_, _, _, (), hrun, hwatched, rfl⟩

end

/-! ## A small run

A workbook whose only sheet has no part, so that all that is known of the sheet has to come from the
application.
-/

/-- A package that lists a sheet, and has no part for it. -/
def lonely : Package where
  parts := [(WorkbookFile.contentTypesPath, []),
    (WorkbookPart.path, Markup.bytes "<sheet name='A' r:id='x'/>"),
    (Package.relationshipsPath WorkbookPart.path,
      Markup.bytes "<Relationship Id='x' Target='a' Type='/worksheet'/>")]

/-- What is read of it. -/
def lonelyFile : WorkbookFile where
  sheets := [⟨"A", .error ⟨"xl/a", .missingPart "xl/a"⟩⟩]
  printAreas := []
  dates := .from1900

theorem read_lonely :
    (liftExcept (.ok lonely : Except ReadError Package) >>= WorkbookFile.read
      : Reading WorkbookFile).run = .ok (.ok lonelyFile) := by
  have hpart : lonely.events? .trimmed WorkbookPart.path
      = some ⟨[.selfClosing ⟨"sheet", [("name", some "A"), ("r:id", some "x")]⟩], true⟩ := by
    decide +kernel
  have hrels : lonely.events? .trimmed (Package.relationshipsPath WorkbookPart.path)
      = some ⟨[.selfClosing ⟨"Relationship",
          [("Id", some "x"), ("Target", some "a"), ("Type", some "/worksheet")]⟩], true⟩ := by
    decide +kernel
  have hstrings : lonely.events? .kept "xl/sharedStrings.xml" = none := by decide +kernel
  have hstyles : lonely.events? .trimmed "xl/styles.xml" = none := by decide +kernel
  have htypes : lonely.find? WorkbookFile.contentTypesPath = some [] := by decide +kernel
  show (WorkbookFile.read lonely).run = _
  unfold WorkbookFile.read SharedStrings.read Styles.read WorkbookPart.read Relationships.read?
  simp only [hstrings, hstyles, htypes, hpart, hrels]
  rfl

/-- An application with little to tell, which may fail when it is asked for charts. -/
def Application.terse (charts : Except SourceError (List Reported.Chart)) (tables : List String) :
    Application Unit where
  graphics _ := pure [{ name := "Box 1", left := 0, top := 0, width := 9, height := 9, typeCode := 1 }]
  charts _ := fun s => (charts, s)
  pageBreaks _ := throw (.callFailed "page_breaks" "not asked for")
  rows _ _ := pure []
  metrics _ := pure .standard
  printAreas _ := pure []
  colors _ _ := pure ∅
  tableCandidates _ _ := pure tables
  close := id

/-- A connector to such an application. -/
def terse (charts : Except SourceError (List Reported.Chart)) (tables : List String) :
    Connector Unit where
  connect := pure (Application.terse charts tables)

/-- What such an application is asked about the lonely sheet. -/
theorem eq_of_gives_terse {charts : Except SourceError (List Reported.Chart)}
    {tables : List String} {x : Extraction} {log : Record}
    (h : Gives (terse charts tables) {} .standard "a.xlsx" (.ok lonely) () x log) :
    log = ((ofFile (terse charts tables).watched {} .standard "a.xlsx" lonelyFile).run
      ((), [])).2.2 := by
  obtain ⟨r, s', _, hwatched, _⟩ := h
  rw [run_eq_ofFile _ _ _ _ (by decide +kernel) read_lonely] at hwatched
  exact (congrArg (fun p => p.2.2) (Except.ok.inj hwatched)).symm

end Sheetwise.Extraction
