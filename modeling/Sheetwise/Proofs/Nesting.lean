import Mathlib.Data.List.Basic
import Sheetwise.Markup.Event

/-!
# Elements within elements

A reader of markup sees start tags and end tags, and no tree. That there is a tree is a property of the
events: each end tag matches the last element left open, because reading stops at one that does not. So
the elements that are open at a place are a stack, and an element, with all that it contains, is a
stretch of events that leaves the stack as it was.
-/

namespace Sheetwise.Markup

/-! ## Open elements -/

/-- The names of the elements that are open after one more event, the innermost first. -/
def descend (path : List String) : Event → List String
  | .opening e => e.name :: path
  | .closing _ => path.tail
  | .selfClosing _ | .text _ => path

/-- The names of the elements left open by some events, the innermost first. -/
def path (es : List Event) : List String := es.foldl descend []

theorem path_append_singleton (es : List Event) (ev : Event) :
    path (es ++ [ev]) = descend (path es) ev := by
  rw [path, List.foldl_append]
  rfl

/-- Each end tag matches the last element left open; some are open at first. -/
inductive Nested : List String → List Event → Prop where
  | nil {outer : List String} : Nested outer []
  | opening {outer : List String} {e : Element} {es : List Event} :
      Nested (e.name :: outer) es → Nested outer (.opening e :: es)
  | selfClosing {outer : List String} {e : Element} {es : List Event} :
      Nested outer es → Nested outer (.selfClosing e :: es)
  | closing {outer : List String} {name : String} {es : List Event} :
      Nested outer es → Nested (name :: outer) (.closing name :: es)
  | text {outer : List String} {s : String} {es : List Event} :
      Nested outer es → Nested outer (.text s :: es)

/-- Some events after others that are nested are nested in what these leave open. -/
theorem nested_append_iff {outer : List String} {es es' : List Event} :
    Nested outer (es ++ es') ↔ Nested outer es ∧ Nested (es.foldl descend outer) es' := by
  induction es generalizing outer with
  | nil => exact ⟨fun h => ⟨.nil, h⟩, fun h => h.2⟩
  | cons ev es ih =>
      constructor
      · intro h
        cases h with
        | opening h => exact ⟨.opening (ih.mp h).1, (ih.mp h).2⟩
        | selfClosing h => exact ⟨.selfClosing (ih.mp h).1, (ih.mp h).2⟩
        | closing h => exact ⟨.closing (ih.mp h).1, (ih.mp h).2⟩
        | text h => exact ⟨.text (ih.mp h).1, (ih.mp h).2⟩
      · rintro ⟨h, h'⟩
        cases h with
        | opening h => exact .opening (ih.mpr ⟨h, h'⟩)
        | selfClosing h => exact .selfClosing (ih.mpr ⟨h, h'⟩)
        | closing h => exact .closing (ih.mpr ⟨h, h'⟩)
        | text h => exact .text (ih.mpr ⟨h, h'⟩)

/-- What is closed is the innermost element. -/
theorem Nested.eq_cons_of_closing {outer : List String} {name : String} {es : List Event}
    (h : Nested outer (.closing name :: es)) : ∃ rest, outer = name :: rest := by
  cases h with
  | @closing rest => exact ⟨rest, rfl⟩

/-- Elements side by side with all that they contain: what is begun is ended, and nothing else. -/
structure Whole (es : List Event) : Prop where
  nested : Nested [] es
  path : path es = []

/-- **What a reader sees of any part is nested.** -/
theorem nested_ofTokens (blanks : Blanks) (unclosed : List Bytes) (ts : List Token) :
    Nested (unclosed.map nameOf) (Events.ofTokens blanks unclosed ts).events := by
  fun_induction Events.ofTokens blanks unclosed ts with
  | case1 => exact .nil
  | case2 => exact .nil
  | case3 unclosed ts ih => exact ih
  | case4 unclosed run ts s _ ih => exact .text ih
  | case5 unclosed run ts _ ih => exact ih
  | case6 unclosed body ts _ ih => exact .selfClosing ih
  | case7 unclosed body ts _ ih => exact .opening ih
  | case8 body ts outer ih => exact .closing ih
  | case9 => exact .nil
  | case10 => exact .nil

theorem nested_ofBytes (blanks : Blanks) (bs : Bytes) : Nested [] (Events.ofBytes blanks bs).events :=
  nested_ofTokens blanks [] _

/-! ## Tags -/

/-- Whether an event is a tag, and not a run of text. -/
def Event.isTag : Event → Bool
  | .text _ => false
  | _ => true

/-- What a reader sees of a part apart from its text. -/
def tags (es : List Event) : List Event := es.filter Event.isTag

theorem Nested.tags {outer : List String} {es : List Event} (h : Nested outer es) :
    Nested outer (tags es) := by
  induction h with
  | nil => exact .nil
  | opening _ ih => exact .opening ih
  | selfClosing _ ih => exact .selfClosing ih
  | closing _ ih => exact .closing ih
  | text _ ih => exact ih

/-- The name in a tag. -/
def Event.name? : Event → Option String
  | .opening e => some e.name
  | .selfClosing e => some e.name
  | .closing name => some name
  | .text _ => none

/-- The names in the tags among some events. -/
def names (es : List Event) : List String := es.filterMap Event.name?

theorem mem_names_cons {name : String} {ev : Event} {es : List Event} :
    name ∈ names (ev :: es) ↔ ev.name? = some name ∨ name ∈ names es := by
  simp [names]

end Sheetwise.Markup
