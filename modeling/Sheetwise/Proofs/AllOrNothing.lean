import Sheetwise.Proofs.Run

/-!
# All or nothing

An application that fails has contributed nothing. However far a run got before a call failed, and
whatever the calls before it brought, its workbook is the one of a run without an application; and the
run makes no call after the one that failed.

The reason is where the contributions are kept: they are put on the sheets only after the last call, so
a failure takes all of them along. What is left is to follow the record, whose last entry is the call
that failed and whose first tells whether there was an application at all.
-/

namespace Sheetwise.Extraction

/-- Nothing on a sheet is from an application, and what the file did not tell is missing. -/
structure WithoutApplication (f : WorkbookFile) (o : Options) (t : TableThresholds) (name : String)
    (sheet : Sheet) : Prop where
  shapes : sheet.shapes = []
  charts : sheet.charts = []
  autoPrintAreas : sheet.autoPrintAreas = []
  cells : (f.rows name o.cellLinks).isOk = false ∨ (f.metrics name).isOk = false →
    sheet.rows = [] ∧ sheet.metrics = .standard
  printAreas : (f.areas name).isOk = false → sheet.printAreas = []
  colors : (f.colors name o.colors).isOk = false → sheet.colors = ∅
  tables : (f.tableCandidates name t).isOk = false → sheet.tableCandidates = []

/--
What a record says of a run that gave `x`, where a run without an application gives `x₀`: if all calls
were answered there is no fallback; if not, the calls end with the first that failed, whose text the
fallback has, and the workbook is that of `x₀`, with nothing on any sheet that the file did not tell.
-/
structure AllOrNothing (f : WorkbookFile) (o : Options) (t : TableThresholds) (log : Record)
    (x x₀ : Extraction) : Prop where
  answered : log.Answered → x.fallback = none
  workbook : ¬ log.Answered → x.workbook = x₀.workbook
  sheets : ¬ log.Answered → ∀ name sheet, x.workbook.sheets.get? name = some sheet →
    WithoutApplication f o t name sheet
  fallback : ¬ log.Answered → ∃ first, ∃ rest : Record, ∃ last e reason,
    log = first :: rest ∧ first.question = .connect ∧ log.StopsAt last e
      ∧ x.fallback = some ⟨reason, e.message⟩
      ∧ (reason = .unavailable ↔ first.failure? ≠ none)
      ∧ (reason = .failed ↔ first.failure? = none)

theorem toOption_of_isOk_eq_false {ε α : Type} {r : Except ε α} (h : r.isOk = false) :
    r.toOption = none := by
  cases r with
  | error e => rfl
  | ok a => cases h

theorem withoutApplication_ofFile (f : WorkbookFile) (o : Options) (t : TableThresholds)
    (name : String) : WithoutApplication f o t name (Draft.ofFile f o t name).1.sheet where
  shapes := rfl
  charts := rfl
  autoPrintAreas := rfl
  cells := by
    intro h
    have hwhole : ((f.rows name o.cellLinks).isOk && (f.metrics name).isOk) = false := by
      rcases h with h | h
      · rw [h, Bool.false_and]
      · rw [h, Bool.and_false]
    simp only [Draft.ofFile, Bool.not_not, hwhole]
    exact ⟨rfl, rfl⟩
  printAreas := by
    intro h
    simp only [Draft.ofFile]
    split
    · rw [toOption_of_isOk_eq_false h]; rfl
    · rfl
  colors := by
    intro h
    simp only [Draft.ofFile]
    split
    · rw [toOption_of_isOk_eq_false h]; rfl
    · rfl
  tables := by
    intro h
    simp only [Draft.ofFile]
    rw [toOption_of_isOk_eq_false h]; rfl

/--
**A run is concluded with all that the application contributes, or with nothing of it.** Whatever the
application answers, and whenever it fails, a readable workbook is extracted.
-/
theorem run_all_or_nothing {σ : Type} (connector : Connector σ) (o : Options)
    (inForce : TableThresholds) {fileName : String} {source : Except ReadError Package}
    {f : WorkbookFile} (s : σ) (hname : isWorkbookName fileName = true)
    (hread : (liftExcept source >>= WorkbookFile.read : Reading WorkbookFile).run = .ok (.ok f))
    (hneed : o.need ≠ .unused) :
    ∃ x log x₀ log₀, Gives connector o inForce fileName source s x log
      ∧ Gives Connector.absent o inForce fileName source () x₀ log₀
      ∧ AllOrNothing f o (thresholds o inForce) log x x₀ := by
  obtain ⟨result, log, hgives, hasked⟩ := gives_concluded connector o inForce s hname hread hneed
  obtain ⟨fb₀, log₀, habsent⟩ := gives_absent o inForce hname hread
  refine ⟨_, log, _, log₀, hgives, habsent, ?_⟩
  cases result with
  | ok cs =>
      obtain ⟨rest, rfl, hrest, _⟩ := hasked
      have hall : Record.Answered (⟨.connect, .ok ()⟩ :: rest) := by
        intro y hy
        rcases List.mem_cons.mp hy with rfl | hy
        · rfl
        · exact hrest y hy
      exact ⟨fun _ => rfl, fun h => absurd hall h, fun h => absurd hall h, fun h => absurd hall h⟩
  | error fb =>
      obtain ⟨first, rest, last, e, heq, hfirst, hstops, rfl⟩ := hasked
      -- the contributions were dropped with the failure, so the drafts are all there is
      refine ⟨fun h => absurd h hstops.not_answered, fun _ => rfl,
        fun _ name sheet h => ?_, fun _ => ?_⟩
      · rw [eq_ofFile_of_get? h]
        exact withoutApplication_ofFile f o _ name
      · refine ⟨first, rest, last, e, _, heq, hfirst, hstops, rfl, ?_, ?_⟩
        · cases first.failure? <;> simp
        · cases first.failure? <;> simp

/-- The charts cannot be had after the graphics were: nothing remains of either. -/
theorem run_all_or_nothing_failing_at_charts :
    isWorkbookName "a.xlsx" = true ∧ ({} : Options).need ≠ .unused
      ∧ ∃ x log x₀ log₀,
        Gives (terse (.error (.callFailed "charts" "busy")) []) {} .standard "a.xlsx" (.ok lonely) ()
          x log
        ∧ Gives Connector.absent {} .standard "a.xlsx" (.ok lonely) () x₀ log₀
        ∧ ¬ log.Answered ∧ AllOrNothing lonelyFile {} (thresholds {} .standard) log x x₀ := by
  have hname : isWorkbookName "a.xlsx" = true := by decide +kernel
  have hneed : ({} : Options).need ≠ .unused := by decide
  obtain ⟨x, log, x₀, log₀, hgives, habsent, h⟩ := run_all_or_nothing
    (terse (.error (.callFailed "charts" "busy")) []) {} .standard () hname read_lonely hneed
  have hfailed : log.all (fun y => y.failure?.isNone) = false := by
    rw [eq_of_gives_terse hgives]
    rfl
  refine ⟨hname, hneed, x, log, x₀, log₀, hgives, habsent, ?_, h⟩
  intro hall
  rw [List.all_eq_true.mpr fun y hy => Option.isNone_iff_eq_none.mpr (hall y hy)] at hfailed
  cases hfailed

end Sheetwise.Extraction
