import Sheetwise.Proofs.Content
import Sheetwise.Proofs.RichText

/-!
# The items of the shared strings

A cell names a shared string by its place alone, so one string too many or too few would give all later
cells the text of others. The reader of the part keeps three flags while it goes through the events: for
an item, for a text element and for a phonetic run. That every item becomes one string rests on these
flags being, behind each element, as they were before it; then the elements can be gone through one by
one, whatever they are and however deep.

The flags are not all about the item. A phonetic run is passed over wherever it stands, and so is an item
in one: it has its place, but no text.
-/

namespace Sheetwise.SharedStrings

open Markup

/--
Content that is marked up as shared strings are: there is no item in an item, no phonetic run in a
phonetic run and nothing but text in a text element.
-/
def Regular : Content → Prop
  | .nil => True
  | .text _ rest => Regular rest
  | .lone _ rest => Regular rest
  | .element e inside rest =>
    (e.name = "si" → inside.mentions "si" = false)
      ∧ (e.name = "rPh" → inside.mentions "rPh" = false)
      ∧ (e.name = "t" → inside.isText = true)
      ∧ Regular inside ∧ Regular rest

/-- The text of the text elements that stand in no phonetic run. -/
def plainText (phonetic : Bool) : Content → String
  | .nil => ""
  | .text _ rest => plainText phonetic rest
  | .lone _ rest => plainText phonetic rest
  | .element e inside rest =>
    (if e.name = "t" then if phonetic then "" else inside.ownText
      else plainText (phonetic || e.name = "rPh") inside) ++ plainText phonetic rest

/-- An item of the shared strings. -/
structure Item where
  /-- Whether it stands in a phonetic run itself. -/
  phonetic : Bool
  content : Content
deriving DecidableEq

/-- All the items in some content, in the order in which they begin. -/
def items (phonetic : Bool) : Content → List Item
  | .nil => []
  | .text _ rest => items phonetic rest
  | .lone e rest => (if e.name = "si" then [⟨phonetic, .nil⟩] else []) ++ items phonetic rest
  | .element e inside rest =>
    (if e.name = "si" then [⟨phonetic, inside⟩] else [])
      ++ items (phonetic || e.name = "rPh") inside ++ items phonetic rest

/-- The string that an item stands for. -/
def Item.shown (i : Item) : String :=
  if i.phonetic then "" else Text.unescapeText (plainText false i.content)

theorem plainText_phonetic (x : Content) : plainText true x = "" := by
  induction x with
  | nil => rfl
  | text s rest ih => exact ih
  | lone e rest ih => exact ih
  | element e inside rest ihInside ihRest =>
      rw [plainText, ihRest, Bool.true_or, ihInside]
      split <;> rfl

theorem unescapeText_empty : Text.unescapeText "" = "" := by
  decide +kernel

theorem Item.shown_eq (b : Bool) (x : Content) :
    Item.shown ⟨b, x⟩ = Text.unescapeText (plainText b x) := by
  cases b with
  | false => rfl
  | true =>
      rw [plainText_phonetic]
      exact unescapeText_empty.symm

theorem items_of_not_mentions {x : Content} (h : x.mentions "si" = false) (b : Bool) :
    items b x = [] := by
  induction x generalizing b with
  | nil => rfl
  | text s rest ih => exact ih h b
  | lone e rest ih =>
      obtain ⟨hname, hrest⟩ := Content.mentions_lone_eq_false.mp h
      rw [items, if_neg hname, ih hrest]
      rfl
  | element e inside rest ihInside ihRest =>
      obtain ⟨hname, hinside, hrest⟩ := Content.mentions_element_eq_false.mp h
      rw [items, if_neg hname, ihInside hinside, ihRest hrest]
      rfl

/-! ## What the reader does with an element -/

/-- What the reader does while it goes through some content. -/
def through (x : Content) (s : State) : State := x.events.foldl step s

/-- What it does at the two tags of an element, and in between. -/
def around (e : Element) (inside : State → State) (s : State) : State :=
  step (inside (step s (.opening e))) (.closing e.name)

/--
**The flags are as they were before**, in or outside of an item and of a phonetic run, and there are some
items more. In an item there is some text more to it.
-/
def Adds (inItem phonetic : Bool) (run : State → State) (found : List Item) (text : String) : Prop :=
  ∀ strings current, ∃ current',
    run ⟨strings, current, inItem, false, phonetic⟩
        = ⟨(found.map Item.shown).reverse ++ strings, current', inItem, false, phonetic⟩
      ∧ (inItem = true → current' = current ++ text)

section

variable {e : Element} {inside : State → State} {i b : Bool} {found : List Item} {text : String}

theorem Adds.of_unchanged {run : State → State}
    (h : ∀ strings current, run ⟨strings, current, i, false, b⟩ = ⟨strings, current, i, false, b⟩) :
    Adds i b run [] "" := by
  intro strings current
  exact ⟨current, h strings current, fun _ => String.append_empty.symm⟩

/-- What is added one after the other is added together. -/
theorem Adds.comp {run run' : State → State} {found' : List Item} {text' : String}
    (h : Adds i b run found text) (h' : Adds i b run' found' text') :
    Adds i b (fun s => run' (run s)) (found ++ found') (text ++ text') := by
  intro strings current
  obtain ⟨middle, hrun, hmiddle⟩ := h strings current
  obtain ⟨current', hrun', hcurrent⟩ := h' ((found.map Item.shown).reverse ++ strings) middle
  refine ⟨current', ?_, fun hi => ?_⟩
  · dsimp only
    rw [hrun, hrun', List.map_append, List.reverse_append, List.append_assoc]
  · rw [hcurrent hi, hmiddle hi, String.append_assoc]

theorem adds_loneItem (h : e.name = "si") : Adds i b (step · (.selfClosing e)) [⟨b, .nil⟩] "" := by
  have hshown : Item.shown ⟨b, .nil⟩ = "" := by
    rw [Item.shown_eq]
    exact unescapeText_empty
  intro strings current
  refine ⟨current, ?_, fun _ => String.append_empty.symm⟩
  dsimp only
  rw [step, if_pos h, List.map_singleton, hshown]
  rfl

/-- An item begins with no text, whatever was read before it. -/
theorem adds_item {x : Content} (h : e.name = "si") (hx : Adds true b (through x) [] (plainText b x)) :
    Adds false b (around e (through x)) [⟨b, x⟩] text := by
  intro strings current
  obtain ⟨current', hinside, hcurrent⟩ := hx strings ""
  have hopen : step ⟨strings, current, false, false, b⟩ (.opening e)
      = ⟨strings, "", true, false, b⟩ := by
    rw [step, if_pos h]
  refine ⟨"", ?_, fun hfalse => by cases hfalse⟩
  rw [around, hopen, hinside, hcurrent rfl, String.empty_append, step, if_pos h, ← Item.shown_eq]
  rfl

theorem foldl_step_isText {x : Content} (h : x.isText = true) (strings : List String)
    (current : String) (inText : Bool) :
    through x ⟨strings, current, i, inText, b⟩
      = ⟨strings, current ++ if inText then x.ownText else "", i, inText, b⟩ := by
  induction x generalizing current with
  | nil => cases inText <;> simp [through, Content.events, Content.ownText]
  | text t rest ih =>
      cases inText with
      | false => exact ih h current
      | true => exact (ih h (current ++ t)).trans (by simp [Content.ownText, String.append_assoc])
  | lone e rest => cases h
  | element e inside rest => cases h

/-- A text element counts if it stands in an item and in no phonetic run. -/
theorem adds_text {x : Content} (h : e.name = "t") (hx : x.isText = true) :
    Adds i b (around e (through x)) [] (if b then "" else x.ownText) := by
  intro strings current
  have hopen : step ⟨strings, current, i, false, b⟩ (.opening e)
      = ⟨strings, current, i, i && !b, b⟩ := by
    cases i <;> cases b <;> simp [step, h]
  refine ⟨current ++ if i && !b then x.ownText else "", ?_, fun hi => ?_⟩
  · rw [around, hopen, foldl_step_isText hx, h]
    rfl
  · rw [hi]
    cases b <;> rfl

theorem adds_phonetic (h : e.name = "rPh") (hinside : Adds i true inside found text) :
    Adds i false (around e inside) found text := by
  intro strings current
  obtain ⟨current', hrun, hcurrent⟩ := hinside strings current
  have hopen : step ⟨strings, current, i, false, false⟩ (.opening e)
      = ⟨strings, current, i, false, true⟩ := by
    simp [step, h]
  refine ⟨current', ?_, hcurrent⟩
  rw [around, hopen, hrun, h]
  rfl

theorem adds_other (hsi : e.name ≠ "si") (hphonetic : e.name ≠ "rPh") (ht : e.name ≠ "t")
    (hinside : Adds i b inside found text) : Adds i b (around e inside) found text := by
  intro strings current
  obtain ⟨current', hrun, hcurrent⟩ := hinside strings current
  refine ⟨current', ?_, hcurrent⟩
  rw [around, step_opening_other hsi hphonetic ht, hrun, step_closing_other hsi hphonetic ht]

end

theorem through_element (e : Element) (inside rest : Content) :
    through (.element e inside rest) = fun s => through rest (around e (through inside) s) := by
  funext s
  rw [through, Content.events, List.foldl_cons, List.foldl_append, List.foldl_cons]
  rfl

/-- **Of each item in some content there is one string more**, if it is marked up as it should be. -/
theorem adds_through {x : Content} {i b : Bool} (hx : Regular x)
    (hi : i = true → x.mentions "si" = false) (hb : b = true → x.mentions "rPh" = false) :
    Adds i b (through x) (items b x) (plainText b x) := by
  induction x generalizing i b with
  | nil => exact .of_unchanged fun _ _ => rfl
  | text s rest ih => exact ih hx hi hb
  | lone e rest ih =>
      have hrest := ih hx (fun h => (Content.mentions_lone_eq_false.mp (hi h)).2)
        fun h => (Content.mentions_lone_eq_false.mp (hb h)).2
      have hlone : Adds i b (step · (.selfClosing e))
          (if e.name = "si" then [⟨b, .nil⟩] else []) "" := by
        split
        · next hsi => exact adds_loneItem hsi
        · next hsi => exact .of_unchanged fun _ _ => if_neg hsi
      rw [items, plainText, ← String.empty_append (s := plainText b rest)]
      exact hlone.comp hrest
  | element e inside rest ihInside ihRest =>
      obtain ⟨hitem, hphonetic, htext, hxInside, hxRest⟩ := hx
      have hi' := fun h => Content.mentions_element_eq_false.mp (hi h)
      have hb' := fun h => Content.mentions_element_eq_false.mp (hb h)
      have hrest := ihRest hxRest (fun h => (hi' h).2.2) fun h => (hb' h).2.2
      rw [through_element, items, plainText]
      refine Adds.comp ?_ hrest
      by_cases hsi : e.name = "si"
      · -- there are no items in an item, so this one does not stand in one
        have hout : i = false := Bool.eq_false_iff.mpr fun h => (hi' h).1 hsi
        have hinside := ihInside (i := true) hxInside (fun _ => hitem hsi) fun h => (hb' h).2.1
        rw [items_of_not_mentions (hitem hsi)] at hinside
        rw [if_pos hsi, items_of_not_mentions (hitem hsi), List.append_nil, hout]
        exact adds_item hsi hinside
      · rw [if_neg hsi, List.nil_append]
        by_cases ht : e.name = "t"
        · rw [if_pos ht, items_of_not_mentions (Content.mentions_of_isText (htext ht) "si")]
          exact adds_text ht (htext ht)
        · rw [if_neg ht]
          by_cases hrPh : e.name = "rPh"
          · have hout : b = false := Bool.eq_false_iff.mpr fun h => (hb' h).1 hrPh
            rw [hout, decide_eq_true hrPh, Bool.or_true]
            exact adds_phonetic hrPh (ihInside hxInside (fun h => (hi' h).2.1) fun _ => hphonetic hrPh)
          · rw [decide_eq_false hrPh, Bool.or_false]
            exact adds_other hsi hrPh ht
              (ihInside hxInside (fun h => (hi' h).2.1) fun h => (hb' h).2.1)

/-- The strings of a part are those of its items. -/
theorem ofEvents_events {x : Content} (hx : Regular x) :
    ofEvents x.events = (items false x).map Item.shown := by
  obtain ⟨current, hrun, -⟩ := adds_through (i := false) (b := false) hx (fun h => by cases h)
    (fun h => by cases h) [] ""
  show (through x _).strings.reverse = _
  rw [hrun, List.append_nil, List.reverse_reverse]

/--
**The strings stay at their places.** A part in which all elements are closed is a tree, and if this is
marked up as shared strings are, its items become one string each, in their order. The string of an item
is the text of its text elements outside of phonetic runs, without escapes, and nothing if the item is in
a phonetic run itself.
-/
theorem read_aligned {p : Package} {es : Events}
    (hpart : p.events? .kept "xl/sharedStrings.xml" = some es) (hwell : es.wellFormed = true)
    (hclosed : path es.events = []) :
    (∃ x : Content, x.events = es.events)
      ∧ ∀ x : Content, x.events = es.events → Regular x →
        read p = .ok ((items false x).map Item.shown) := by
  constructor
  · obtain ⟨bs, -, rfl⟩ := Option.map_eq_some_iff.mp hpart
    exact whole_iff.mp ⟨nested_ofBytes _ _, hclosed⟩
  · intro x hevents hx
    rw [read, hpart]
    dsimp only
    rw [Events.checked, if_pos hwell, ← hevents, ofEvents_events hx]
    rfl

/-! ## An item in a phonetic run -/

/-- A package whose third shared string is marked up as the first, but stands in a phonetic run. -/
def spoken : Package where
  parts := [("xl/sharedStrings.xml", Markup.bytes ("<sst><si><t>_x0041_</t></si><si/>"
    ++ "<rPh><si><t>_x0041_</t></si></rPh>"
    ++ "<si><r><t>b</t></r><rPh><t>z</t></rPh></si></sst>"))]

/-- The tree of the shared strings of that package. -/
def spokenTree : Content :=
  let letter := Content.element ⟨"t", []⟩ (.text "_x0041_" .nil) .nil
  let run := Content.element ⟨"r", []⟩ (.element ⟨"t", []⟩ (.text "b" .nil) .nil)
    (.element ⟨"rPh", []⟩ (.element ⟨"t", []⟩ (.text "z" .nil) .nil) .nil)
  .element ⟨"sst", []⟩ (.element ⟨"si", []⟩ letter (.lone ⟨"si", []⟩
    (.element ⟨"rPh", []⟩ (.element ⟨"si", []⟩ letter .nil) (.element ⟨"si", []⟩ run .nil)))) .nil

theorem events_spoken :
    spoken.events? .kept "xl/sharedStrings.xml" = some ⟨spokenTree.events, true⟩ := by
  decide +kernel

theorem regular_spokenTree : Regular spokenTree := by
  simp [spokenTree, Regular, Content.mentions, Content.isText]

/-- The four items become four strings. -/
theorem read_aligned_spoken :
    spoken.events? .kept "xl/sharedStrings.xml" = some ⟨spokenTree.events, true⟩
      ∧ path spokenTree.events = [] ∧ Regular spokenTree
      ∧ read spoken = .ok ["A", "", "", "b"] := by
  have hclosed : path spokenTree.events = [] := by decide +kernel
  have hshown : (items false spokenTree).map Item.shown = ["A", "", "", "b"] := by decide +kernel
  have hread := (read_aligned events_spoken rfl hclosed).2 spokenTree rfl regular_spokenTree
  rw [hshown] at hread
  exact ⟨events_spoken, hclosed, regular_spokenTree, hread⟩

/-- Two items with the same content become different strings. -/
theorem string_lost_in_phonetic_run :
    spoken.events? .kept "xl/sharedStrings.xml" = some ⟨spokenTree.events, true⟩
      ∧ path spokenTree.events = [] ∧ Regular spokenTree
      ∧ ((items false spokenTree)[2]?.map Item.content)
        = ((items false spokenTree)[0]?.map Item.content)
      ∧ read spoken = .ok ["A", "", "", "b"] := by
  refine ⟨events_spoken, by decide +kernel, regular_spokenTree, by decide +kernel, ?_⟩
  rw [read, events_spoken]
  exact congrArg Except.ok (by decide +kernel)

end Sheetwise.SharedStrings
