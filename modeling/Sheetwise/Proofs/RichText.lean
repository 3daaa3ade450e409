import Mathlib.Tactic.SplitIfs
import Sheetwise.Package.SharedStrings

/-!
# Rich text and the shared strings

Rich text is made of text elements, of runs around them, and of phonetic runs, which repeat a text in
another script. It is described here by its pieces, with the events that a reader sees of it. Of a rich
text among the shared strings all is read but the phonetic runs, wherever it stands in its part.
-/

namespace Sheetwise

open Markup

/-! ## Rich text -/

/-- The names of the elements that one of the readers takes for more than a part of rich text. -/
def RichText.reserved : List String :=
  ["si", "is", "c", "v", "sheetFormatPr", "col", "row", "hyperlink", "tablePart"]

/--
Rich text, piece by piece. There are phonetic runs only in rich text that is not in one itself.
-/
inductive RichText : (phonetic : Bool) → Type where
  | nil {b : Bool} : RichText b
  /-- Characters between the elements, such as the ends of lines. -/
  | between {b : Bool} (s : String) (rest : RichText b) : RichText b
  /-- A text element. Its characters come in several pieces if there are comments among them. -/
  | text {b : Bool} (attributes : List (String × Option String)) (pieces : List String)
      (rest : RichText b) : RichText b
  /-- An element that is its own end, such as a property of a run. -/
  | lone {b : Bool} (e : Element) (h : e.name ∉ RichText.reserved) (rest : RichText b) : RichText b
  /-- An element around rich text, such as a run. -/
  | around {b : Bool} (e : Element) (h : e.name ∉ "t" :: "rPh" :: RichText.reserved)
      (inside rest : RichText b) : RichText b
  /-- A phonetic run. -/
  | aloud (attributes : List (String × Option String)) (inside : RichText true)
      (rest : RichText false) : RichText false

namespace RichText

variable {b : Bool}

/-- What a reader sees of rich text. -/
def events {b : Bool} : RichText b → List Event
  | nil => []
  | between s rest => .text s :: rest.events
  | text attributes pieces rest =>
    .opening ⟨"t", attributes⟩ :: (pieces.map .text ++ .closing "t" :: rest.events)
  | lone e _ rest => .selfClosing e :: rest.events
  | around e _ inside rest => .opening e :: (inside.events ++ .closing e.name :: rest.events)
  | aloud attributes inside rest =>
    .opening ⟨"rPh", attributes⟩ :: (inside.events ++ .closing "rPh" :: rest.events)

/-- The characters of all text elements, but of those in phonetic runs only if these are read. -/
def chars (phonetics : Bool) {b : Bool} : RichText b → String
  | nil => ""
  | between _ rest => rest.chars phonetics
  | text _ pieces rest =>
    (if b && !phonetics then "" else String.join pieces) ++ rest.chars phonetics
  | lone _ _ rest => rest.chars phonetics
  | around _ _ inside rest => inside.chars phonetics ++ rest.chars phonetics
  | aloud _ inside rest => inside.chars phonetics ++ rest.chars phonetics

/-- The text that rich text stands for. -/
def shown (phonetics : Bool) (x : RichText false) : String := Text.unescapeText (x.chars phonetics)

/--
Whether a cell shows the same when the phonetic runs are read as when they are not. A blank text is not
shown.
-/
def ReadsAlike (x : RichText false) : Prop :=
  x.shown false = x.shown true
    ∨ Text.isBlankText (x.shown false) = true ∧ Text.isBlankText (x.shown true) = true

/-- Whether there are no characters to read in phonetic runs. -/
def isMute {b : Bool} : RichText b → Bool
  | nil => true
  | between _ rest => rest.isMute
  | text _ pieces rest => (!b || String.join pieces = "") && rest.isMute
  | lone _ _ rest => rest.isMute
  | around _ _ inside rest => inside.isMute && rest.isMute
  | aloud _ inside rest => inside.isMute && rest.isMute

theorem chars_of_isMute (x : RichText b) (h : x.isMute = true) : x.chars false = x.chars true := by
  induction x with
  | nil => rfl
  | between _ rest ih => exact ih h
  | @text b _ pieces rest ih =>
      obtain ⟨hpieces, hrest⟩ := Bool.and_eq_true_iff.mp h
      rw [chars, chars, ih hrest]
      cases b with
      | false => rfl
      | true =>
          have hempty : String.join pieces = "" := by simpa using hpieces
          rw [hempty]
          rfl
  | lone _ _ rest ih => exact ih h
  | around _ _ inside rest ihInside ihRest =>
      obtain ⟨hinside, hrest⟩ := Bool.and_eq_true_iff.mp h
      rw [chars, chars, ihInside hinside, ihRest hrest]
  | aloud _ inside rest ihInside ihRest =>
      obtain ⟨hinside, hrest⟩ := Bool.and_eq_true_iff.mp h
      rw [chars, chars, ihInside hinside, ihRest hrest]

/-- Rich text without phonetic runs, or with empty ones, reads alike. -/
theorem readsAlike_of_isMute {x : RichText false} (h : x.isMute = true) : x.ReadsAlike :=
  .inl (congrArg Text.unescapeText (x.chars_of_isMute h))

end RichText

/-! ## Elements left open -/

/--
No element of a name is left open: there has been none, or since the last one was opened one has been
closed.
-/
inductive Markup.Closed (name : String) : List Event → Prop where
  | nil : Closed name []
  | closing (es : List Event) : Closed name (es ++ [.closing name])
  | other {es : List Event} {ev : Event} :
      Closed name es → (∀ e, ev = .opening e → e.name ≠ name) → Closed name (es ++ [ev])

/-- What holds at first and after every end, and what only a start can change, holds if none is open. -/
theorem Markup.Closed.foldl {σ : Type} {f : σ → Event → σ} {s : σ} {name : String}
    {es : List Event} (P : σ → Prop) (h : Closed name es) (hs : P s)
    (hclosing : ∀ s, P (f s (.closing name)))
    (hother : ∀ s ev, P s → (∀ e, ev = .opening e → e.name ≠ name) → P (f s ev)) :
    P (es.foldl f s) := by
  induction h with
  | nil => exact hs
  | closing es =>
      rw [List.foldl_append]
      exact hclosing _
  | other _ hev ih =>
      rw [List.foldl_append]
      exact hother _ _ ih hev

/-! ## The reader of the shared strings -/

namespace SharedStrings

theorem foldl_step_pieces (pieces strings : List String) (current : String) (inText b : Bool) :
    (pieces.map Event.text).foldl step ⟨strings, current, true, inText, b⟩
      = ⟨strings, current ++ if inText then String.join pieces else "", true, inText, b⟩ := by
  induction pieces generalizing current with
  | nil => cases inText <;> simp
  | cons p pieces ih =>
      rw [List.map_cons, List.foldl_cons]
      cases inText with
      | false => exact ih current
      | true =>
          refine (ih (current ++ p)).trans ?_
          rw [if_pos rfl, if_pos rfl, String.join_cons, String.append_assoc]

theorem step_opening_other {e : Element} (hsi : e.name ≠ "si") (hphonetic : e.name ≠ "rPh")
    (ht : e.name ≠ "t") (s : State) : step s (.opening e) = s := by
  rw [step, if_neg hsi, if_neg hphonetic, if_neg fun h => ht h.1]

theorem step_closing_other {name : String} (hsi : name ≠ "si") (hphonetic : name ≠ "rPh")
    (ht : name ≠ "t") (s : State) : step s (.closing name) = s := by
  rw [step, if_neg hsi, if_neg hphonetic, if_neg ht]

theorem step_opening_of_notMem {e : Element} (h : e.name ∉ "t" :: "rPh" :: RichText.reserved)
    (s : State) : step s (.opening e) = s := by
  simp only [RichText.reserved, List.mem_cons, not_or] at h
  exact step_opening_other h.2.2.1 h.2.1 h.1 s

theorem step_closing_of_notMem {name : String} (h : name ∉ "t" :: "rPh" :: RichText.reserved)
    (s : State) : step s (.closing name) = s := by
  simp only [RichText.reserved, List.mem_cons, not_or] at h
  exact step_closing_other h.2.2.1 h.2.1 h.1 s

/-- **Of rich text, all but the phonetic runs goes into an item.** -/
theorem foldl_step_events {b : Bool} (x : RichText b) (strings : List String) (current : String) :
    x.events.foldl step ⟨strings, current, true, false, b⟩
      = ⟨strings, current ++ x.chars false, true, false, b⟩ := by
  -- by induction on the pieces; after each of them the flags are as they were before it
  induction x generalizing current with
  | nil => rw [RichText.chars, String.append_empty]; rfl
  | between s rest ih => exact ih current
  | @text b attributes pieces rest ih =>
      have hopen : step ⟨strings, current, true, false, b⟩ (.opening ⟨"t", attributes⟩)
          = ⟨strings, current, true, !b, b⟩ := by
        cases b <;> rfl
      have hpieces : (if !b then String.join pieces else "")
          = if b && !false then "" else String.join pieces := by
        cases b <;> rfl
      rw [RichText.events, List.foldl_cons, hopen, List.foldl_append, foldl_step_pieces,
        List.foldl_cons, RichText.chars, ← String.append_assoc, hpieces]
      exact ih _
  | lone e h rest ih =>
      have hsi : e.name ≠ "si" := fun hsi => h (hsi ▸ List.mem_cons_self)
      rw [RichText.events, List.foldl_cons, RichText.chars, step, if_neg hsi]
      exact ih current
  | around e h inside rest ihInside ihRest =>
      rw [RichText.events, List.foldl_cons, step_opening_of_notMem h, List.foldl_append, ihInside,
        List.foldl_cons, step_closing_of_notMem h, ihRest, RichText.chars, String.append_assoc]
  | aloud attributes inside rest ihInside ihRest =>
      have hopen : step ⟨strings, current, true, false, false⟩ (.opening ⟨"rPh", attributes⟩)
          = ⟨strings, current, true, false, true⟩ := rfl
      rw [RichText.events, List.foldl_cons, hopen, List.foldl_append, ihInside, List.foldl_cons,
        RichText.chars, ← String.append_assoc]
      exact ihRest _

/-- The events of an item. -/
def item (x : RichText false) : List Event :=
  .opening ⟨"si", []⟩ :: (x.events ++ [.closing "si"])

/-- In a part, a rich text is the item at a place. -/
def IsItem (part : List Event) (place : Nat) (x : RichText false) : Prop :=
  ∃ before after, part = before ++ item x ++ after ∧ Closed "t" before ∧ Closed "rPh" before
    ∧ (ofEvents before).length = place

theorem inText_of_closed {es : List Event} (h : Closed "t" es) :
    (es.foldl step {}).inText = false := by
  refine h.foldl (fun s : State => s.inText = false) rfl (fun _ => rfl) fun s ev hs hev => ?_
  cases ev with
  | opening e =>
      have ht : ¬ (e.name = "t" ∧ s.inItem = true ∧ (!s.inPhonetic) = true) :=
        fun ht => hev e rfl ht.1
      rw [step, if_neg ht]
      split_ifs <;> exact hs
  | closing name =>
      rw [step]
      split_ifs
      · exact hs
      · exact hs
      · rfl
      · exact hs
  | selfClosing _ | text _ =>
      rw [step]
      split_ifs <;> exact hs

theorem inPhonetic_of_closed {es : List Event} (h : Closed "rPh" es) :
    (es.foldl step {}).inPhonetic = false := by
  refine h.foldl (fun s : State => s.inPhonetic = false) rfl (fun _ => rfl) fun s ev hs hev => ?_
  cases ev with
  | opening e =>
      rw [step, if_neg (hev e rfl)]
      split_ifs <;> exact hs
  | closing name =>
      rw [step]
      split_ifs
      · exact hs
      · rfl
      · exact hs
      · exact hs
  | selfClosing _ | text _ =>
      rw [step]
      split_ifs <;> exact hs

theorem foldl_step_item {s : State} (htext : s.inText = false) (hphonetic : s.inPhonetic = false)
    (x : RichText false) :
    (item x).foldl step s = { strings := x.shown false :: s.strings } := by
  obtain ⟨strings, _, _, _, _⟩ := s
  obtain rfl : _ = false := htext
  obtain rfl : _ = false := hphonetic
  have hopen (current : String) (inItem : Bool) :
      step ⟨strings, current, inItem, false, false⟩ (.opening ⟨"si", []⟩)
        = ⟨strings, "", true, false, false⟩ := rfl
  rw [item, List.foldl_cons, hopen, List.foldl_append, foldl_step_events, String.empty_append]
  rfl

theorem strings_step (s : State) (ev : Event) : ∃ new, (step s ev).strings = new ++ s.strings := by
  cases ev with
  | opening e =>
      rw [step]
      split_ifs <;> exact ⟨[], rfl⟩
  | selfClosing e =>
      rw [step]
      split_ifs
      · exact ⟨[""], rfl⟩
      · exact ⟨[], rfl⟩
  | closing name =>
      rw [step]
      split_ifs
      · exact ⟨[Text.unescapeText s.current], rfl⟩
      all_goals exact ⟨[], rfl⟩
  | text t =>
      rw [step]
      split_ifs <;> exact ⟨[], rfl⟩

/-- What has been read of a part stays, whatever comes after it. -/
theorem strings_foldl_step (es : List Event) (s : State) :
    ∃ later, (es.foldl step s).strings = later ++ s.strings := by
  induction es generalizing s with
  | nil => exact ⟨[], rfl⟩
  | cons ev es ih =>
      obtain ⟨new, hnew⟩ := strings_step s ev
      obtain ⟨later, hlater⟩ := ih (step s ev)
      exact ⟨later ++ new, by rw [List.foldl_cons, hlater, hnew, List.append_assoc]⟩

/-- **An item is read as its text without its phonetic runs.** -/
theorem getElem?_ofEvents {part : List Event} {place : Nat} {x : RichText false}
    (h : IsItem part place x) : (ofEvents part)[place]? = some (x.shown false) := by
  obtain ⟨before, after, rfl, htext, hphonetic, rfl⟩ := h
  have hitem := foldl_step_item (inText_of_closed htext) (inPhonetic_of_closed hphonetic) x
  obtain ⟨later, hlater⟩ := strings_foldl_step after ((item x).foldl step (before.foldl step {}))
  have hstrings : ofEvents (before ++ item x ++ after)
      = ofEvents before ++ x.shown false :: later.reverse := by
    unfold ofEvents
    rw [List.foldl_append, List.foldl_append, hlater, hitem]
    simp
  rw [hstrings, List.getElem?_append_right (Nat.le_refl _), Nat.sub_self]
  rfl

end SharedStrings

end Sheetwise
