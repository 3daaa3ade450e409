import Sheetwise.Proofs.Nesting

/-!
# The tree of a part

Where all that is begun is ended, the events of a part are those of a tree, of elements with text between
them. The tree is what a claim about an element and its content is about; a reader has the events only,
and keeps in its state what it has to know of the tree.

To build the tree, the events are gone through from the end. What stands before the end of the innermost
open element is its content so far, what stands before the end of the next one is the content of that,
and so on outwards. An event is put in front of the innermost of these contents, but that a start closes
the innermost one off and makes an element of it.
-/

namespace Sheetwise.Markup

/-- Elements side by side, with all that they contain, and text between them. -/
inductive Content where
  | nil
  /-- A run of text. -/
  | text (s : String) (rest : Content)
  /-- An element that is its own end. -/
  | lone (e : Element) (rest : Content)
  /-- An element with what stands between its two tags. -/
  | element (e : Element) (inside rest : Content)
deriving DecidableEq

namespace Content

/-- What a reader sees of some content. -/
def events : Content → List Event
  | nil => []
  | text s rest => .text s :: rest.events
  | lone e rest => .selfClosing e :: rest.events
  | element e inside rest => .opening e :: (inside.events ++ .closing e.name :: rest.events)

/-- Whether there is an element of a name, at any depth. -/
def mentions (name : String) : Content → Bool
  | nil => false
  | text _ rest => rest.mentions name
  | lone e rest => e.name = name || rest.mentions name
  | element e inside rest => e.name = name || inside.mentions name || rest.mentions name

/-- Whether there is nothing but text. -/
def isText : Content → Bool
  | nil => true
  | text _ rest => rest.isText
  | lone _ _ => false
  | element _ _ _ => false

/-- The runs of text that stand in no element of the content, put together. -/
def ownText : Content → String
  | nil => ""
  | text s rest => s ++ rest.ownText
  | lone _ rest => rest.ownText
  | element _ _ rest => rest.ownText

theorem mentions_lone_eq_false {name : String} {e : Element} {rest : Content} :
    (lone e rest).mentions name = false ↔ e.name ≠ name ∧ rest.mentions name = false := by
  rw [mentions, Bool.or_eq_false_iff, decide_eq_false_iff_not]

theorem mentions_element_eq_false {name : String} {e : Element} {inside rest : Content} :
    (element e inside rest).mentions name = false
      ↔ e.name ≠ name ∧ inside.mentions name = false ∧ rest.mentions name = false := by
  rw [mentions, Bool.or_eq_false_iff, Bool.or_eq_false_iff, decide_eq_false_iff_not, and_assoc]

theorem mentions_of_isText {x : Content} (h : x.isText = true) (name : String) :
    x.mentions name = false := by
  induction x with
  | nil => rfl
  | text s rest ih => exact ih h
  | lone e rest => cases h
  | element e inside rest => cases h

end Content

/-! ## From events to the tree -/

/--
The contents of the elements that are open, the innermost first and the ends of the elements in between,
and at last what stands in none.
-/
inductive Unrolled : List String → List Event → Prop where
  | whole (x : Content) : Unrolled [] x.events
  | closing (x : Content) {name : String} {outer : List String} {es : List Event} :
      Unrolled outer es → Unrolled (name :: outer) (x.events ++ .closing name :: es)

/-- What is put in front of the innermost content leaves the outer ones as they are. -/
theorem Unrolled.append {outer : List String} {front es : List Event} {f : Content → Content}
    (hf : ∀ x, (f x).events = front ++ x.events) (h : Unrolled outer es) :
    Unrolled outer (front ++ es) := by
  cases h with
  | whole x =>
      rw [← hf]
      exact .whole _
  | closing x h =>
      rw [← List.append_assoc, ← hf]
      exact .closing _ h

theorem Nested.unrolled {outer : List String} {es : List Event} (h : Nested outer es)
    (hpath : es.foldl descend outer = []) : Unrolled outer es := by
  induction h with
  | nil =>
      obtain rfl := hpath
      exact .whole .nil
  | @opening outer e es h ih =>
      -- the innermost content becomes that of the element begun here
      cases ih hpath with
      | closing x hrest =>
          have hevents (rest : Content) : (Content.element e x rest).events
              = (.opening e :: x.events ++ [.closing e.name]) ++ rest.events := by
            simp [Content.events]
          have hfront := hrest.append hevents
          rwa [List.append_assoc, List.singleton_append, List.cons_append] at hfront
  | @selfClosing outer e es h ih =>
      have hevents (rest : Content) : (Content.lone e rest).events = [.selfClosing e] ++ rest.events :=
        rfl
      exact (ih hpath).append hevents
  | @closing outer name es h ih => exact .closing .nil (ih hpath)
  | @text outer s es h ih =>
      have hevents (rest : Content) : (Content.text s rest).events = [.text s] ++ rest.events := rfl
      exact (ih hpath).append hevents

theorem Content.nested_events (x : Content) (outer : List String) :
    Nested outer x.events ∧ x.events.foldl descend outer = outer := by
  induction x generalizing outer with
  | nil => exact ⟨.nil, rfl⟩
  | text s rest ih => exact ⟨.text (ih outer).1, (ih outer).2⟩
  | lone e rest ih => exact ⟨.selfClosing (ih outer).1, (ih outer).2⟩
  | element e inside rest ihInside ihRest =>
      obtain ⟨hinside, hpath⟩ := ihInside (e.name :: outer)
      constructor
      · refine .opening (nested_append_iff.mpr ⟨hinside, ?_⟩)
        rw [hpath]
        exact .closing (ihRest outer).1
      · rw [events, List.foldl_cons, List.foldl_append, descend, hpath]
        exact (ihRest outer).2

/-- **The parts in which all is ended that is begun are the trees.** -/
theorem whole_iff {es : List Event} : Whole es ↔ ∃ x : Content, x.events = es := by
  constructor
  · intro h
    cases h.nested.unrolled h.path with
    | whole x => exact ⟨x, rfl⟩
  · rintro ⟨x, rfl⟩
    obtain ⟨hnested, hpath⟩ := x.nested_events []
    exact ⟨hnested, hpath⟩

end Sheetwise.Markup
