import Mathlib.Data.List.Induction
import Sheetwise.Package.Styles
import Sheetwise.Proofs.Checked

/-!
# Sections of the styles

The reader of styles keeps no stack of the elements that are open. For each section it remembers whether
the last tag of that name was a start tag, and what it makes of an element depends on that. So what is
read of a part, and whether anything is read at all, can be told from the events alone: from the tags of
a name that come before an element, and from nothing else that was read before.
-/

namespace Sheetwise

open Markup

/-- A list that ends in a fault does so at some item, all items before it having gone well. -/
theorem Checked.foldlM_eq_error {α σ : Type} {f : σ → α → Checked σ} {l : List α} {s : σ}
    {fault : Fault} : l.foldlM f s = .error fault
      ↔ ∃ before a after s', l = before ++ a :: after ∧ before.foldlM f s = .ok s'
        ∧ f s' a = .error fault := by
  induction l generalizing s with
  | nil => exact iff_of_false (fun h => by cases h) fun ⟨before, a, after, _, h, _⟩ => by simp at h
  | cons b l ih =>
      rw [List.foldlM_cons]
      constructor
      · intro h
        cases hb : f s b with
        | error fault' =>
            rw [hb] at h
            cases h
            exact ⟨[], b, l, s, rfl, rfl, hb⟩
        | ok s₁ =>
            rw [hb] at h
            obtain ⟨before, a, after, s', rfl, hbefore, ha⟩ := ih.mp h
            refine ⟨b :: before, a, after, s', rfl, ?_, ha⟩
            rw [List.foldlM_cons, hb]
            exact hbefore
      · rintro ⟨before, a, after, s', heq, hbefore, ha⟩
        cases before with
        | nil =>
            cases heq
            cases hbefore
            rw [ha]
            rfl
        | cons c before =>
            cases heq
            rw [List.foldlM_cons] at hbefore
            obtain ⟨s₁, hb, hbefore⟩ := Checked.bind_eq_ok.mp hbefore
            rw [hb]
            exact ih.mpr ⟨before, a, after, s', rfl, hbefore, ha⟩

theorem Checked.map_eq_error {α β : Type} {f : α → β} {r : Checked α} {fault : Fault} :
    r.map f = .error fault ↔ r = .error fault := by
  cases r with
  | error fault' => simp [Except.map]
  | ok a => simp [Except.map]

namespace Styles

/-! ## The last tag of a name -/

/-- Whether the last tag of a name was a start tag, after one more event. -/
def mark (name : String) (isOpen : Bool) : Event → Bool
  | .opening e => if e.name = name then true else isOpen
  | .selfClosing e => if e.name = name then false else isOpen
  | .closing n => if n = name then false else isOpen
  | .text _ => isOpen

/-- Whether the last tag of a name among some events is a start tag. -/
def within (name : String) (es : List Event) : Bool := es.foldl (mark name) false

theorem within_append_singleton (name : String) (es : List Event) (ev : Event) :
    within name (es ++ [ev]) = mark name (within name es) ev := by
  rw [within, List.foldl_append]
  rfl

/-- In a part, an element is read among the fills: inside of them, and outside of conditional formats. -/
def AmongFills (es before : List Event) (e : Element) : Prop :=
  ∃ ev after, es = before ++ ev :: after ∧ ev.element? = some e ∧ within "fills" before = true
    ∧ within "dxfs" before = false

/-- There is a fill among the events. -/
def HasFill (es : List Event) : Prop := ∃ before e, AmongFills es before e ∧ e.name = "fill"

theorem hasFill_append_singleton {es : List Event} {ev : Event} : HasFill (es ++ [ev])
    ↔ HasFill es ∨ ∃ e, ev.element? = some e ∧ e.name = "fill" ∧ within "fills" es = true
      ∧ within "dxfs" es = false := by
  constructor
  · rintro ⟨before, e, ⟨ev', after, heq, hev, hfills, hdxfs⟩, hname⟩
    rcases List.eq_nil_or_concat after with rfl | ⟨after, last, rfl⟩
    · obtain ⟨rfl, hlast⟩ := List.append_inj' heq rfl
      obtain rfl := List.singleton_inj.mp hlast
      exact .inr ⟨e, hev, hname, hfills, hdxfs⟩
    · rw [List.concat_eq_append, ← List.cons_append, ← List.append_assoc] at heq
      obtain ⟨rfl, -⟩ := List.append_inj' heq rfl
      exact .inl ⟨before, e, ⟨ev', after, rfl, hev, hfills, hdxfs⟩, hname⟩
  · rintro (⟨before, e, ⟨ev', after, rfl, hev, hfills, hdxfs⟩, hname⟩ | ⟨e, hev, hname, hfills, hdxfs⟩)
    · exact ⟨before, e, ⟨ev', after ++ [ev], by simp, hev, hfills, hdxfs⟩, hname⟩
    · exact ⟨es, e, ⟨ev, [], rfl, hev, hfills, hdxfs⟩, hname⟩

/-! ## One event -/

variable {s s' : State} {e : Element} {ev : Event} {es : List Event} {staysOpen : Bool}

/-- The flags of a state tell the last tags of the events read so far, and the fills whether there are any. -/
structure State.Follows (s : State) (es : List Event) : Prop where
  inFills : s.inFills = within "fills" es
  inBorders : s.inBorders = within "borders" es
  inEntries : s.inEntries = within "cellXfs" es
  inConditional : s.inConditional = within "dxfs" es
  fills : s.fills ≠ [] ↔ HasFill es

theorem changeFirst_eq_nil_iff {α : Type} {f : α → α} {l : List α} : changeFirst f l = [] ↔ l = [] := by
  cases l <;> simp [changeFirst]

/-- Reading a number format changes nothing but the number formats. -/
theorem numberFormat_eq (s : State) (e : Element) :
    numberFormat s e = { s with numberFormats := (numberFormat s e).numberFormats } := by
  unfold numberFormat
  split <;> rfl

/-- Reading a side of a border changes nothing but the borders. -/
theorem side_eq (s : State) (e : Element) : side s e = { s with borders := (side s e).borders } := by
  unfold side
  split
  · split <;> rfl
  · rfl

/-- Reading a colour changes nothing but the fills, of which there are as many before and after. -/
theorem fillColor_eq_ok (h : fillColor s e = .ok s') :
    (s'.fills = [] ↔ s.fills = []) ∧ s' = { s with fills := s'.fills } := by
  unfold fillColor at h
  split at h
  · cases h
    exact ⟨Iff.rfl, rfl⟩
  · dsimp only at h
    split at h
    · obtain ⟨color, -, h⟩ := Checked.bind_eq_ok.mp h
      cases h
      exact ⟨changeFirst_eq_nil_iff, rfl⟩
    · cases h
      exact ⟨changeFirst_eq_nil_iff, rfl⟩

/-- What the start of an element can change of a state, field by field. -/
structure Started (s : State) (e : Element) (staysOpen : Bool) (s' : State) : Prop where
  inFills : s'.inFills = if e.name = "fills" then staysOpen else s.inFills
  inBorders : s'.inBorders = if e.name = "borders" then staysOpen else s.inBorders
  inEntries : s'.inEntries = if e.name = "cellXfs" then staysOpen else s.inEntries
  inConditional : s'.inConditional = if e.name = "dxfs" then staysOpen else s.inConditional
  inBorder : s'.inBorder = if e.name = "border" && s.inBorders && !s.inConditional then staysOpen
    else s.inBorder
  entries : s'.entries = if e.name = "xf" && s.inEntries then
    ⟨wordOf e "numFmtId", wordOf e "fillId", wordOf e "borderId"⟩ :: s.entries else s.entries
  /-- Fills are only added where one is read. -/
  fills : s'.fills ≠ [] ↔ s.fills ≠ [] ∨ e.name = "fill" ∧ s.inFills = true ∧ s.inConditional = false

theorem started_of_start (h : start s e staysOpen = .ok s') : Started s e staysOpen s' := by
  unfold start at h
  split at h
  case h_1 hname =>
    cases h
    split
    · constructor <;> simp [hname]
    · rw [numberFormat_eq]
      constructor <;> simp [hname]
  case h_8 hname =>
    split at h
    · obtain ⟨hfills, heq⟩ := fillColor_eq_ok h
      rw [heq]
      constructor <;> simp [hname, hfills]
    · cases h
      constructor <;> simp [hname]
  case h_11 =>
    cases h
    split
    · rw [side_eq]
      constructor <;> simp_all
    · constructor <;> simp_all
  case h_6 hname | h_7 hname | h_9 hname | h_10 hname =>
    cases h
    split <;> constructor <;> simp_all [changeFirst_eq_nil_iff]
  case h_2 hname | h_3 hname | h_4 hname | h_5 hname =>
    cases h
    constructor <;> simp [hname]

/-- Only the element of a section changes what is known of its tags. -/
theorem flags_step (h : step s ev = .ok s') :
    s'.inFills = mark "fills" s.inFills ev ∧ s'.inBorders = mark "borders" s.inBorders ev
      ∧ s'.inEntries = mark "cellXfs" s.inEntries ev
      ∧ s'.inConditional = mark "dxfs" s.inConditional ev := by
  have hstart {e : Element} {b : Bool} (h : Started s e b s') :=
    And.intro h.inFills (And.intro h.inBorders (And.intro h.inEntries h.inConditional))
  cases ev with
  | opening e => exact hstart (started_of_start h)
  | selfClosing e => exact hstart (started_of_start h)
  | closing name =>
      cases h
      simp only [finish, mark]
      split <;> simp_all
  | text t =>
      cases h
      exact ⟨rfl, rfl, rfl, rfl⟩

theorem fills_step (h : step s ev = .ok s') : s'.fills ≠ [] ↔ s.fills ≠ []
    ∨ ∃ e, ev.element? = some e ∧ e.name = "fill" ∧ s.inFills = true ∧ s.inConditional = false := by
  cases ev with
  | opening e => simpa [Event.element?] using (started_of_start h).fills
  | selfClosing e => simpa [Event.element?] using (started_of_start h).fills
  | closing name =>
      cases h
      have hfills : (finish s name).fills = s.fills := by
        unfold finish
        split <;> rfl
      simp [hfills, Event.element?]
  | text t =>
      cases h
      simp [Event.element?]

/-! ## Many events -/

theorem follows_empty : ({} : State).Follows [] where
  inFills := rfl
  inBorders := rfl
  inEntries := rfl
  inConditional := rfl
  fills := iff_of_false (fun h => h rfl) fun ⟨before, _, ⟨_, _, h, _⟩, _⟩ => by simp at h

theorem State.Follows.step (hs : s.Follows es) (h : step s ev = .ok s') : s'.Follows (es ++ [ev]) := by
  obtain ⟨hfills, hborders, hentries, hconditional⟩ := flags_step h
  constructor
  · rw [hfills, hs.inFills, within_append_singleton]
  · rw [hborders, hs.inBorders, within_append_singleton]
  · rw [hentries, hs.inEntries, within_append_singleton]
  · rw [hconditional, hs.inConditional, within_append_singleton]
  · rw [fills_step h, hasFill_append_singleton, hs.fills, hs.inFills, hs.inConditional]

/-- **The state tells the last tags of what was read.** -/
theorem follows_of_foldlM (h : es.foldlM Styles.step {} = .ok s) : s.Follows es := by
  induction es using List.reverseRecOn generalizing s with
  | nil =>
      cases h
      exact follows_empty
  | append_singleton es ev ih =>
      rw [List.foldlM_append] at h
      obtain ⟨s₁, hes, h⟩ := Checked.bind_eq_ok.mp h
      obtain ⟨s₂, hev, h⟩ := Checked.bind_eq_ok.mp h
      cases h
      exact (ih hes).step hev

/-! ## The part -/

/-- The styles that were listed, with the number formats that they refer to. -/
def State.styles (s : State) : List CellStyle :=
  s.entries.reverse.map fun x => x.style s.numberFormats s.fills.reverse s.borders.reverse

theorem ofEvents_eq (es : List Event) : ofEvents es = (es.foldlM Styles.step {}).map State.styles := by
  unfold ofEvents
  cases es.foldlM Styles.step {} <;> rfl

/-- A part of styles is read to its end, or to where it is no longer well formed. -/
theorem run_read_eq {p : Package} {es : Events} (h : p.events? .trimmed "xl/styles.xml" = some es) :
    (read p).run = (ofEvents es.events).map fun styles => es.checked.map fun _ => styles := by
  unfold read
  rw [h]
  cases hstyles : ofEvents es.events with
  | error fault =>
      dsimp only
      rw [hstyles]
      rfl
  | ok styles =>
      dsimp only
      rw [hstyles]
      cases es.checked <;> rfl

end Styles

end Sheetwise
