import Sheetwise.Proofs.Exchange

/-!
# What an application contributes, and from which answers

For each sheet an application is asked a fixed list of questions, all of them about that sheet, and each
at most once: what is drawn on it, if the mode wants that, where its pages break, if that is wanted,
and then whatever the file left open. The contribution is made of the answers and nothing else.

So the answers can be written down first, with the record and the contribution both read off them.
-/

namespace Sheetwise

/-- The answers to what is asked about one sheet, where it was asked. -/
structure Answers where
  graphics : Option (List Reported.Drawing)
  charts : Option (List Reported.Chart)
  pageBreaks : Option Reported.PageBreaks
  cells : Option (List Row × Metrics)
  printAreas : Option (List PrintArea)
  colors : Option ColorMap
  tables : Option (List String)

/-- The exchange of a question that was answered, if it was asked. -/
def Question.told (q : Question) : Option q.Answer → Record
  | none => []
  | some a => [⟨q, .ok a⟩]

namespace Answers

/-- The questions about a sheet, in order, with their answers. -/
def entries (x : Answers) (sheet : String) (o : Options) (t : TableThresholds) :
    List ((q : Question) × Option q.Answer) :=
  [⟨.graphics sheet, x.graphics⟩, ⟨.charts sheet, x.charts⟩, ⟨.pageBreaks sheet, x.pageBreaks⟩,
    ⟨.rows sheet o.cellLinks, x.cells.map Prod.fst⟩, ⟨.metrics sheet, x.cells.map Prod.snd⟩,
    ⟨.printAreas sheet, x.printAreas⟩, ⟨.colors sheet o.colors, x.colors⟩,
    ⟨.tableCandidates sheet t, x.tables⟩]

/-- What is on the record when the questions have been answered so. -/
def record (x : Answers) (sheet : String) (o : Options) (t : TableThresholds) : Record :=
  (x.entries sheet o t).flatMap fun e => e.1.told e.2

/-- What is made of the answers. -/
def contribution (x : Answers) (mode : Mode) : Contribution where
  shapes := (x.graphics.map (Reported.Drawing.graphics · mode)).getD []
  charts := (x.charts.map (List.map Reported.Chart.chart)).getD []
  autoPrintAreas := (x.pageBreaks.map Reported.PageBreaks.pages).getD []
  cells := x.cells
  printAreas := x.printAreas
  colors := x.colors
  tables := x.tables

/-- There are answers to the questions that the options and the draft of a sheet give rise to. -/
structure Fits (x : Answers) (d : Draft) (o : Options) : Prop where
  graphics : x.graphics.isSome = decide (o.need = .required)
  charts : x.charts.isSome = decide (o.need = .required)
  pageBreaks : x.pageBreaks.isSome = o.includeAutoPageBreaks
  cells : x.cells.isSome = d.gaps.cells
  printAreas : x.printAreas.isSome = d.gaps.printAreas
  colors : x.colors.isSome = d.gaps.colors
  tables : x.tables.isSome = d.gaps.tables

end Answers

/-! ## The record of one sheet -/

section

variable {σ : Type}

/-- A contribution is made of answers, each to a question that may not have been asked. -/
theorem contribution_eq_fill (d : Draft) (app : Application σ) (o : Options) (t : TableThresholds) :
    d.contribution app o t = do
      let graphics ← Draft.fill (decide (o.need = .required)) (app.graphics d.name)
      let charts ← Draft.fill (decide (o.need = .required)) (app.charts d.name)
      let pageBreaks ← Draft.fill o.includeAutoPageBreaks (app.pageBreaks d.name)
      let cells ← Draft.fill d.gaps.cells do
        return (← app.rows d.name o.cellLinks, ← app.metrics d.name)
      let printAreas ← Draft.fill d.gaps.printAreas (app.printAreas d.name)
      let colors ← Draft.fill d.gaps.colors (app.colors d.name o.colors)
      let tables ← Draft.fill d.gaps.tables (app.tableCandidates d.name t)
      return (Answers.mk graphics charts pageBreaks cells printAreas colors tables).contribution
        o.mode := by
  unfold Draft.contribution
  -- a question that is not wanted has the answer `none` in one form and an empty list in the other
  by_cases hn : o.need = .required <;> by_cases hp : o.includeAutoPageBreaks = true <;>
    simp only [hn, hp, Draft.fill, Answers.contribution, decide_true, decide_false, if_true,
      bind_pure_comp, bind_map_left, pure_bind, Option.map_some, Option.map_none, Option.getD_some,
      Option.getD_none, Bool.false_eq_true, if_false]

/-- A question that is put only to fill a gap is on the record if there is a gap. -/
theorem records_fill {α : Type} {P : Record → α → Prop} {ask : Query σ α}
    {watched : Query (σ × Record) α} (gap : Bool) (h : Records P ask watched) :
    Records (fun new x => x.isSome = gap ∧ match x with
        | some a => P new a
        | none => new = [])
      (Draft.fill gap ask) (Draft.fill gap watched) := by
  cases gap with
  | false => exact records_pure ⟨rfl, rfl⟩
  | true =>
      refine records_weaken (records_map some h) ?_
      intro new _ hgiven
      obtain ⟨a, rfl, hp⟩ := hgiven
      exact ⟨rfl, hp⟩

theorem records_told (gap : Bool) (q : Question) (ask : Query σ q.Answer) :
    Records (fun new x => x.isSome = gap ∧ new = q.told x)
      (Draft.fill gap ask) (Draft.fill gap (Query.watched q ask)) := by
  refine records_weaken (records_fill gap (records_watched q ask)) ?_
  rintro new (_ | a) ⟨hg, hn⟩
  · exact ⟨hg, hn⟩
  · exact ⟨hg, hn⟩

/-- The rows and the sizes of a sheet are asked for one after the other. -/
theorem records_cells (app : Application σ) (sheet : String) (links : Bool) :
    Records (fun new p => new = [⟨.rows sheet links, .ok p.1⟩, ⟨.metrics sheet, .ok p.2⟩])
      (do return (← app.rows sheet links, ← app.metrics sheet))
      (do return (← app.watched.rows sheet links, ← app.watched.metrics sheet)) := by
  refine records_weaken (records_bind (records_watched (.rows sheet links) _) fun rows =>
    records_bind (records_watched (.metrics sheet) _) fun metrics =>
      records_pure (P := fun new p => new = [] ∧ p = (rows, metrics)) ⟨rfl, rfl⟩) ?_
  intro _ _ hgiven
  obtain ⟨rows, _, _, rfl, rfl, metrics, _, _, rfl, rfl, rfl, rfl⟩ := hgiven
  rfl

/-- **The contribution to a sheet and its record come from the same answers.** -/
theorem records_contribution (d : Draft) (app : Application σ) (o : Options)
    (t : TableThresholds) :
    Records (fun new c => ∃ x : Answers, x.Fits d o ∧ new = x.record d.name o t
        ∧ c = x.contribution o.mode)
      (d.contribution app o t) (d.contribution app.watched o t) := by
  rw [contribution_eq_fill, contribution_eq_fill]
  refine records_weaken
    (records_bind (records_told _ (.graphics d.name) _) fun graphics =>
    records_bind (records_told _ (.charts d.name) _) fun charts =>
    records_bind (records_told _ (.pageBreaks d.name) _) fun pageBreaks =>
    records_bind (records_fill _ (records_cells app d.name o.cellLinks)) fun cells =>
    records_bind (records_told _ (.printAreas d.name) _) fun printAreas =>
    records_bind (records_told _ (.colors d.name o.colors) _) fun colors =>
    records_bind (records_told _ (.tableCandidates d.name t) _) fun tables =>
    records_pure (P := fun new c => new = [] ∧ c = (Answers.mk graphics charts pageBreaks cells
      printAreas colors tables).contribution o.mode) ⟨rfl, rfl⟩) ?_
  intro _ _ hgiven
  obtain ⟨graphics, _, _, rfl, ⟨hg, rfl⟩, charts, _, _, rfl, ⟨hc, rfl⟩, pageBreaks, _, _, rfl,
    ⟨hp, rfl⟩, cells, ask, _, rfl, ⟨hx, hask⟩, printAreas, _, _, rfl, ⟨ha, rfl⟩, colors, _, _, rfl,
    ⟨hk, rfl⟩, tables, _, _, rfl, ⟨ht, rfl⟩, rfl, rfl⟩ := hgiven
  refine ⟨⟨graphics, charts, pageBreaks, cells, printAreas, colors, tables⟩,
    ⟨hg, hc, hp, hx, ha, hk, ht⟩, ?_, rfl⟩
  have hcells : ask = Question.told (.rows d.name o.cellLinks) (cells.map Prod.fst)
      ++ Question.told (.metrics d.name) (cells.map Prod.snd) := by
    cases cells with
    | none => exact hask
    | some p => exact hask
  rw [hcells]
  simp only [Answers.record, Answers.entries, List.flatMap_cons, List.flatMap_nil, List.append_assoc]

end

/-! ## What the record of one sheet tells -/

theorem question_of_mem_told {q : Question} {a : Option q.Answer} {x : Exchange}
    (h : x ∈ q.told a) : x.question = q := by
  cases a with
  | none => simp [Question.told] at h
  | some a => rw [List.mem_singleton.mp h]

/-- Where no question is asked twice, each answer is the last one to its question. -/
theorem lastAnswer_of_mem {es : List ((q : Question) × Option q.Answer)} {q : Question}
    {a : q.Answer} (hnd : (es.map Sigma.fst).Nodup) (h : ⟨q, some a⟩ ∈ es) :
    Record.LastAnswer (es.flatMap fun e => e.1.told e.2) q a := by
  induction es with
  | nil => simp at h
  | cons e es ih =>
      rw [List.map_cons, List.nodup_cons] at hnd
      rw [List.flatMap_cons]
      rcases List.mem_cons.mp h with h | h
      · subst h
        refine Record.LastAnswer.append_left ⟨[], [], rfl, by simp⟩ ?_
        intro x hx he
        obtain ⟨e', he', hx'⟩ := List.mem_flatMap.mp hx
        have hmem : e'.1 ∈ es.map Sigma.fst := List.mem_map_of_mem he'
        rw [← question_of_mem_told hx', he] at hmem
        exact hnd.1 hmem
      · exact (ih hnd.2 h).append_right

namespace Answers

/-- No question is asked twice about a sheet. -/
theorem entries_nodup (x : Answers) (sheet : String) (o : Options) (t : TableThresholds) :
    ((x.entries sheet o t).map Sigma.fst).Nodup := by
  simp [entries]

theorem lastAnswer_record (x : Answers) {sheet : String} {o : Options} {t : TableThresholds}
    {q : Question} {a : q.Answer} (h : ⟨q, some a⟩ ∈ x.entries sheet o t) :
    (x.record sheet o t).LastAnswer q a :=
  lastAnswer_of_mem (x.entries_nodup sheet o t) h

theorem sheet_of_mem_entries {x : Answers} {sheet : String} {o : Options} {t : TableThresholds}
    {e : (q : Question) × Option q.Answer} (h : e ∈ x.entries sheet o t) :
    e.1.sheet? = some sheet := by
  have hall : ∀ e ∈ x.entries sheet o t, e.1.sheet? = some sheet := by
    simp [entries, Question.sheet?]
  exact hall e h

/-- All that is asked for a sheet is asked about that sheet. -/
theorem sheet_of_mem_record {x : Answers} {sheet : String} {o : Options} {t : TableThresholds}
    {y : Exchange} (h : y ∈ x.record sheet o t) : y.question.sheet? = some sheet := by
  obtain ⟨e, he, hy⟩ := List.mem_flatMap.mp h
  rw [question_of_mem_told hy]
  exact sheet_of_mem_entries he

end Answers

end Sheetwise
