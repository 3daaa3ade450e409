import Sheetwise.Extraction.Run

/-!
# What passes between an extraction and an application

An application may answer or fail at any call, depending on all calls before it, so nothing can be
known of its answers in advance. What can be known is how an extraction uses them. To say it, an
application is watched: the watched one answers as the other does, and every call to it is put on a
record together with what came of it.

`Records` ties a computation that asks an application to the same computation asking the watched one.
It holds of single calls and is kept by sequencing, so it holds of everything built from calls; and it
says that a record ends with the first call that fails.
-/

namespace Sheetwise

/-- What is asked of an application, the first thing being that it open the workbook. -/
inductive Question where
  | connect
  | graphics (sheet : String)
  | charts (sheet : String)
  | pageBreaks (sheet : String)
  | rows (sheet : String) (includeLinks : Bool)
  | metrics (sheet : String)
  | printAreas (sheet : String)
  | colors (sheet : String) (options : ColorOptions)
  | tableCandidates (sheet : String) (thresholds : TableThresholds)

namespace Question

/-- What a question is answered with. -/
def Answer : Question → Type
  | .connect => Unit
  | .graphics _ => List Reported.Drawing
  | .charts _ => List Reported.Chart
  | .pageBreaks _ => Reported.PageBreaks
  | .rows _ _ => List Row
  | .metrics _ => Metrics
  | .printAreas _ => List PrintArea
  | .colors _ _ => ColorMap
  | .tableCandidates _ _ => List String

/-- The sheet that a question is about. -/
def sheet? : Question → Option String
  | .connect => none
  | .graphics n | .charts n | .pageBreaks n | .rows n _ | .metrics n | .printAreas n
  | .colors n _ | .tableCandidates n _ => some n

end Question

/-- A call to an application: what was asked, and the answer or the failure. -/
structure Exchange where
  question : Question
  answer : Except SourceError question.Answer

/-- Why a call failed, if it did. -/
def Exchange.failure? (x : Exchange) : Option SourceError :=
  match x.answer with
  | .ok _ => none
  | .error e => some e

/-- The calls to an application, in order. -/
abbrev Record := List Exchange

namespace Record

/-- No call failed. -/
def Answered (log : Record) : Prop := ∀ x ∈ log, x.failure? = none

/-- The last call failed, and no call before it. -/
def StopsAt (log : Record) (last : Exchange) (e : SourceError) : Prop :=
  ∃ before, log = before ++ [last] ∧ Answered before ∧ last.failure? = some e

/-- The last call that asked `q` was answered with `a`. -/
def LastAnswer (log : Record) (q : Question) (a : q.Answer) : Prop :=
  ∃ before after, log = before ++ ⟨q, .ok a⟩ :: after ∧ ∀ x ∈ after, x.question ≠ q

theorem answered_nil : Answered [] := by
  intro x hx; simp at hx

theorem answered_append {l l' : Record} (h : Answered l) (h' : Answered l') :
    Answered (l ++ l') := by
  intro x hx
  rcases List.mem_append.mp hx with hx | hx
  · exact h x hx
  · exact h' x hx

theorem stopsAt_append {l l' : Record} {last : Exchange} {e : SourceError} (h : Answered l)
    (h' : StopsAt l' last e) : StopsAt (l ++ l') last e := by
  obtain ⟨before, heq, hb, hl⟩ := h'
  refine ⟨l ++ before, ?_, answered_append h hb, hl⟩
  rw [heq, List.append_assoc]

theorem StopsAt.not_answered {log : Record} {last : Exchange} {e : SourceError}
    (h : StopsAt log last e) : ¬ Answered log := by
  obtain ⟨before, heq, _, hl⟩ := h
  intro ha
  have hn := ha last (by rw [heq]; simp)
  rw [hl] at hn
  cases hn

theorem LastAnswer.append_left {l l' : Record} {q : Question} {a : q.Answer}
    (h : LastAnswer l q a) (h' : ∀ x ∈ l', x.question ≠ q) : LastAnswer (l ++ l') q a := by
  obtain ⟨before, after, heq, ha⟩ := h
  refine ⟨before, after ++ l', by rw [heq]; simp, ?_⟩
  intro x hx
  rcases List.mem_append.mp hx with hx | hx
  · exact ha x hx
  · exact h' x hx

theorem LastAnswer.append_right {l l' : Record} {q : Question} {a : q.Answer}
    (h : LastAnswer l' q a) : LastAnswer (l ++ l') q a := by
  obtain ⟨before, after, heq, ha⟩ := h
  exact ⟨l ++ before, after, by rw [heq]; simp, ha⟩

end Record

/-! ## Watching -/

section

variable {σ α β : Type}

/-- What a query gives in a state, and the state after it. -/
def Query.answer (ask : Query σ α) (s : σ) : Except SourceError α × σ := ask.run.run s

/-- A query that puts itself on the record. -/
def Query.watched (q : Question) (ask : Query σ q.Answer) : Query (σ × Record) q.Answer :=
  fun (s, log) => ((ask.answer s).1, (ask.answer s).2, log ++ [⟨q, (ask.answer s).1⟩])

/-- The application that answers the same and puts every call on the record. -/
def Application.watched (app : Application σ) : Application (σ × Record) where
  graphics n := Query.watched (.graphics n) (app.graphics n)
  charts n := Query.watched (.charts n) (app.charts n)
  pageBreaks n := Query.watched (.pageBreaks n) (app.pageBreaks n)
  rows n l := Query.watched (.rows n l) (app.rows n l)
  metrics n := Query.watched (.metrics n) (app.metrics n)
  printAreas n := Query.watched (.printAreas n) (app.printAreas n)
  colors n o := Query.watched (.colors n o) (app.colors n o)
  tableCandidates n t := Query.watched (.tableCandidates n t) (app.tableCandidates n t)
  close p := (app.close p.1, p.2)

/-- The connector that opens the workbook in the watched application. -/
def Connector.watched (connector : Connector σ) : Connector (σ × Record) where
  connect := fun (s, log) =>
    let (result, s') := connector.connect.answer s
    (result.map Application.watched, s', log ++ [⟨.connect, result.map fun _ => ()⟩])

/-! ## Records of computations -/

/--
What a record holds of a computation: answers only, of which `P` holds together with the result, or
answers up to the failure that the computation ended with.
-/
def Outcome (P : Record → α → Prop) (new : Record) : Except SourceError α → Prop
  | .ok a => new.Answered ∧ P new a
  | .error e => ∃ last, new.StopsAt last e

/--
`watched` does what `ask` does, in every state, and what it adds to the record is an outcome of which
`P` holds.
-/
def Records (P : Record → α → Prop) (ask : Query σ α) (watched : Query (σ × Record) α) : Prop :=
  ∀ s log, ∃ new, watched.answer (s, log) = ((ask.answer s).1, (ask.answer s).2, log ++ new)
    ∧ Outcome P new (ask.answer s).1

theorem answer_pure (a : α) (s : σ) : (pure a : Query σ α).answer s = (.ok a, s) := rfl

theorem answer_bind (ask : Query σ α) (k : α → Query σ β) (s : σ) :
    (ask >>= k).answer s = match ask.answer s with
      | (.ok a, s') => (k a).answer s'
      | (.error e, s') => (.error e, s') := by
  unfold Query.answer
  rw [ExceptT.run_bind, StateT.run_bind]
  show ExceptT.bindCont k (ask.run.run s).1 (ask.run.run s).2 = _
  rcases ask.run.run s with ⟨_ | _, _⟩ <;> rfl

theorem records_pure {P : Record → α → Prop} {a : α} (h : P [] a) :
    Records P (pure a : Query σ α) (pure a) := by
  intro s log
  refine ⟨[], ?_, Record.answered_nil, h⟩
  rw [answer_pure, answer_pure, List.append_nil]

theorem records_weaken {P Q : Record → α → Prop} {ask : Query σ α}
    {watched : Query (σ × Record) α} (hr : Records P ask watched)
    (h : ∀ new a, P new a → Q new a) : Records Q ask watched := by
  intro s log
  obtain ⟨new, heq, ho⟩ := hr s log
  refine ⟨new, heq, ?_⟩
  cases hq : (ask.answer s).1 with
  | error e => rw [hq] at ho; exact ho
  | ok a => rw [hq] at ho; exact ⟨ho.1, h new a ho.2⟩

/-- A call puts itself on the record, and nothing else. -/
theorem records_watched (q : Question) (ask : Query σ q.Answer) :
    Records (fun new a => new = [⟨q, .ok a⟩]) ask (Query.watched q ask) := by
  intro s log
  refine ⟨[⟨q, (ask.answer s).1⟩], rfl, ?_⟩
  cases (ask.answer s).1 with
  | error e =>
      exact ⟨⟨q, .error e⟩, [], rfl, Record.answered_nil, rfl⟩
  | ok a =>
      refine ⟨?_, rfl⟩
      intro x hx
      rw [List.mem_singleton.mp hx]; rfl

/-- **Sequencing.** The record of two computations is that of the first and then that of the second. -/
theorem records_bind {P : Record → α → Prop} {Q : α → Record → β → Prop} {ask : Query σ α}
    {watched : Query (σ × Record) α} {k : α → Query σ β} {k' : α → Query (σ × Record) β}
    (h : Records P ask watched) (hk : ∀ a, Records (Q a) (k a) (k' a)) :
    Records (fun new b => ∃ a first rest, new = first ++ rest ∧ P first a ∧ Q a rest b)
      (ask >>= k) (watched >>= k') := by
  intro s log
  obtain ⟨first, heq, ho⟩ := h s log
  rw [answer_bind, answer_bind, heq]
  generalize ask.answer s = out at ho
  rcases out with ⟨e | a, s'⟩
  · -- the first one failed, and the second is not begun
    exact ⟨first, rfl, ho⟩
  · obtain ⟨rest, heq', ho'⟩ := hk a s' (log ++ first)
    refine ⟨first ++ rest, ?_, ?_⟩
    · dsimp only
      rw [heq', List.append_assoc]
    · dsimp only
      cases hb : ((k a).answer s').1 with
      | error e =>
          rw [hb] at ho'
          obtain ⟨last, hl⟩ := ho'
          exact ⟨last, Record.stopsAt_append ho.1 hl⟩
      | ok b =>
          rw [hb] at ho'
          exact ⟨Record.answered_append ho.1 ho'.1, a, first, rest, rfl, ho.2, ho'.2⟩

theorem records_map {P : Record → α → Prop} {ask : Query σ α} {watched : Query (σ × Record) α}
    (f : α → β) (h : Records P ask watched) :
    Records (fun new b => ∃ a, b = f a ∧ P new a) (f <$> ask) (f <$> watched) := by
  rw [map_eq_pure_bind, map_eq_pure_bind]
  refine records_weaken (records_bind h fun a =>
    records_pure (P := fun new b => new = [] ∧ b = f a) ⟨rfl, rfl⟩) ?_
  intro new b hgiven
  obtain ⟨a, first, rest, rfl, hp, rfl, rfl⟩ := hgiven
  exact ⟨a, rfl, by rw [List.append_nil]; exact hp⟩

/-! ## Computations on a list -/

/-- A record in pieces, one for each of some items and what it gave. -/
inductive Pieces {ι : Type} (P : ι → Record → α → Prop) : List ι → Record → List α → Prop where
  | nil : Pieces P [] [] []
  | cons {i : ι} {is : List ι} {first rest : Record} {a : α} {as : List α} :
      P i first a → Pieces P is rest as → Pieces P (i :: is) (first ++ rest) (a :: as)

theorem records_mapM {ι : Type} {P : ι → Record → α → Prop} {f : ι → Query σ α}
    {f' : ι → Query (σ × Record) α} (h : ∀ i, Records (P i) (f i) (f' i)) (is : List ι) :
    Records (Pieces P is) (is.mapM f) (is.mapM f') := by
  induction is with
  | nil => exact records_pure .nil
  | cons i is ih =>
      rw [List.mapM_cons, List.mapM_cons]
      refine records_weaken (records_bind (h i) fun a => records_bind ih fun as =>
        records_pure (P := fun new b => new = [] ∧ b = a :: as) ⟨rfl, rfl⟩) ?_
      intro new _ hgiven
      obtain ⟨a, first, _, rfl, hp, as, rest, _, rfl, hps, rfl, rfl⟩ := hgiven
      rw [List.append_nil]
      exact .cons hp hps

end

end Sheetwise
