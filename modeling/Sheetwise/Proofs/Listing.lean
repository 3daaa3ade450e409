import Sheetwise.Package.Source
import Sheetwise.Proofs.Spelling

/-!
# Lists of areas that are written and read

A list of areas is read by three scans that each keep track of the apostrophes on their own: one looks
for commas, one for exclamation marks, one takes the apostrophes off a name. They agree on what is
quoted because of what an apostrophe inside a name becomes: two of them turn quoting off and on again
with nothing in between. So a comma or an exclamation mark in a name is always met inside quotes, and
whatever a name is made of, the scans stop where the name does.
-/

namespace Sheetwise

namespace Text

theorem double_cons (c x : Char) (cs : List Char) :
    double c (x :: cs) = (if x = c then [c, c] else [x]) ++ double c cs :=
  List.flatMap_cons

theorem undouble_double (c : Char) (cs : List Char) : undouble c (double c cs) = cs := by
  induction cs with
  | nil => rfl
  | cons x cs ih =>
      rw [double_cons]
      by_cases h : x = c
      · rw [if_pos h, List.cons_append, List.cons_append, List.nil_append, undouble,
          if_pos ⟨rfl, rfl⟩, ih, h]
      · rw [if_neg h, List.singleton_append]
        cases hrest : double c cs with
        | nil =>
            rw [hrest, undouble] at ih
            rw [undouble, ← ih]
        | cons y rest => rw [undouble, if_neg fun hxy => h hxy.1, ← hrest, ih]

end Text

namespace Reference

/-! ## Quotes -/

/--
From one state of the quotes to another, some characters are read, and `x` is met only inside quotes.
The states say whether the next character is quoted.
-/
inductive Hides (x : Char) : Bool → List Char → Bool → Prop where
  | nil (quoted : Bool) : Hides x quoted [] quoted
  | cons {quoted after : Bool} {c : Char} {cs : List Char} : ¬ (c = x ∧ quoted = false) →
      Hides x (if c = quote then !quoted else quoted) cs after → Hides x quoted (c :: cs) after

namespace Hides

variable {x : Char} {quoted after : Bool} {cs rest : List Char}

theorem append {last : Bool} (h : Hides x quoted cs after) (hrest : Hides x after rest last) :
    Hides x quoted (cs ++ rest) last := by
  induction h with
  | nil quoted => exact hrest
  | cons hx _ ih => exact .cons hx (ih hrest)

theorem of_forall_ne (h : ∀ c ∈ cs, c ≠ x ∧ c ≠ quote) (quoted : Bool) : Hides x quoted cs quoted := by
  induction cs with
  | nil => exact .nil quoted
  | cons c cs ih =>
      rw [List.forall_mem_cons] at h
      refine .cons (fun hc => h.1.1 hc.1) ?_
      rw [if_neg h.1.2]
      exact ih h.2

/-- An apostrophe turns quoting on or off. -/
theorem turn (hx : x ≠ quote) (h : Hides x (!quoted) cs after) : Hides x quoted (quote :: cs) after :=
  .cons (fun hc => hx hc.1.symm) h

/-- Two apostrophes leave the text after them in quotes, and so does anything else that is quoted. -/
theorem double (hx : x ≠ quote) (cs : List Char) : Hides x true (Text.double quote cs) true := by
  induction cs with
  | nil => exact .nil true
  | cons c cs ih =>
      rw [Text.double_cons]
      suffices hone : Hides x true (if c = quote then [quote, quote] else [c]) true from append hone ih
      by_cases hc : c = quote
      · -- quoting goes off and on again with nothing in between
        rw [if_pos hc]
        exact turn hx (turn hx (.nil true))
      · rw [if_neg hc]
        refine .cons (fun hquoted => absurd hquoted.2 (by decide)) ?_
        rw [if_neg hc]
        exact .nil true

/-- **A name in apostrophes hides whatever it is made of**, the apostrophe apart. -/
theorem quoteName (hx : x ≠ quote) (cs : List Char) :
    Hides x false (Reference.quoteName cs) false :=
  turn hx (append (double hx cs) (turn hx (.nil false)))

end Hides

theorem splitCommas_append {quoted after : Bool} {cs rest part : List Char}
    {parts : List (List Char)} (h : Hides ',' quoted cs after)
    (hrest : splitCommas after rest = part :: parts) :
    splitCommas quoted (cs ++ rest) = (cs ++ part) :: parts := by
  induction h with
  | nil quoted => exact hrest
  | cons hx _ ih =>
      rw [List.cons_append, splitCommas, if_neg hx, ih hrest]
      rfl

/-- Parts that hide their commas are cut where they were joined. -/
theorem splitCommas_intercalate {parts : List (List Char)} (hne : parts ≠ [])
    (h : ∀ p ∈ parts, Hides ',' false p false) :
    splitCommas false ([','].intercalate parts) = parts := by
  induction parts with
  | nil => exact absurd rfl hne
  | cons p parts ih =>
      obtain ⟨hp, hparts⟩ := List.forall_mem_cons.mp h
      cases parts with
      | nil => rw [List.intercalate_singleton, ← List.append_nil p, splitCommas_append hp rfl]
      | cons q parts =>
          -- the comma after the first part is the first one outside quotes
          have hrest : splitCommas false (',' :: [','].intercalate (q :: parts))
              = [] :: q :: parts := by
            rw [splitCommas, if_pos ⟨rfl, rfl⟩, ih (List.cons_ne_nil q parts) hparts]
          rw [List.intercalate_cons_cons, List.append_assoc, List.singleton_append,
            splitCommas_append hp hrest, List.append_nil]

theorem splitBang_append {quoted after : Bool} {cs : List Char} (h : Hides '!' quoted cs after)
    (rest : List Char) :
    splitBang quoted (cs ++ rest) = (splitBang after rest).map fun s => (cs ++ s.1, s.2) := by
  induction h with
  | nil quoted => exact Option.map_id'.symm
  | cons hx _ ih =>
      rw [List.cons_append, splitBang, ih]
      cases splitBang _ rest with
      | none => exact if_neg hx
      | some s => rfl

/-! ## Entries of a list -/

theorem isBlank_quote : Text.isBlank quote = false := by decide

theorem getLast?_quoteName (name : List Char) : (quoteName name).getLast? = some quote := by
  rw [quoteName, ← List.cons_append]
  exact List.getLast?_concat

theorem trimChars_quoteName (name : List Char) :
    Text.trimChars (quoteName name) = quoteName name :=
  Text.trimChars_enclosed isBlank_quote isBlank_quote _

theorem unquote_quoteName (name : List Char) : unquote (quoteName name) = name := by
  have hlength : 2 ≤ (quoteName name).length := by simp [quoteName]
  rw [unquote, if_pos ⟨hlength, rfl, getLast?_quoteName name⟩]
  show Text.undouble quote (Text.double quote name ++ [quote]).dropLast = name
  rw [List.dropLast_concat, Text.undouble_double]

section Named

variable {b : Rect} {cs : List Char} (h : b.Spelled cs) (name : List Char)

include h

/-- The name of a sheet is split off at the mark behind it, whatever the name is made of. -/
theorem splitSheet_named : splitSheet (quoteName name ++ '!' :: cs) = (some name, cs) := by
  have hbang : splitBang false ('!' :: cs) = some ([], cs) := by
    rw [splitBang, splitBang_of_spelled h]
    exact if_pos ⟨rfl, rfl⟩
  rw [splitSheet, splitBang_append (.quoteName (by decide) _), hbang]
  dsimp only [Option.map_some]
  rw [List.append_nil, trimChars_quoteName, unquote_quoteName]

/-- It begins with an apostrophe and ends as the range does. -/
theorem trimChars_named :
    Text.trimChars (quoteName name ++ '!' :: cs) = quoteName name ++ '!' :: cs := by
  apply Text.trimChars_eq_self
  · rintro c ⟨⟩
    exact isBlank_quote
  · intro c hc
    rw [List.append_cons, List.getLast?_append_of_ne_nil _ h.ne_nil] at hc
    exact h.isBlank_of_mem (List.mem_of_getLast? hc)

end Named

/-- An area of a sheet as it is listed: with the name of the sheet, and dollar signs where wanted. -/
structure ListedArea where
  sheet : String
  rect : Rect
  marks : Rect.Marks := {}

namespace ListedArea

/-- The characters of an entry: the name of the sheet in apostrophes, and the range. -/
def chars (e : ListedArea) : List Char :=
  quoteName e.sheet.toList ++ '!' :: e.rect.markedChars e.marks

/-- The list of some areas as text. -/
def listText (es : List ListedArea) : String := String.ofList ([','].intercalate (es.map chars))

variable (e : ListedArea)

theorem chars_ne_nil : e.chars ≠ [] := List.cons_ne_nil _ _

theorem hides_comma : Hides ',' false e.chars false := by
  refine .append (.quoteName (by decide) _) (.of_forall_ne ?_ false)
  refine List.forall_mem_cons.mpr ⟨by decide, fun c hc => ?_⟩
  have hspelled := e.rect.spelled_markedChars e.marks
  exact ⟨hspelled.ne_of_mem hc (by decide) (by decide) (by decide),
    hspelled.ne_of_mem hc (by decide) (by decide) (by decide)⟩

theorem trimChars_chars : Text.trimChars e.chars = e.chars :=
  trimChars_named (e.rect.spelled_markedChars e.marks) _

/-- **A list is read entry by entry.** -/
theorem areas_intercalate (es : List ListedArea) :
    areas ([','].intercalate (es.map chars)) = es.map chars := by
  cases es with
  | nil => decide
  | cons e es =>
      have hne : (e :: es).map chars ≠ [] := List.cons_ne_nil _ _
      have hcommas : ∀ p ∈ (e :: es).map chars, Hides ',' false p false := by
        intro p hp
        obtain ⟨e', _, rfl⟩ := List.mem_map.mp hp
        exact e'.hides_comma
      rw [areas, splitCommas_intercalate hne hcommas, List.map_map]
      have htrim : (e :: es).map (Text.trimChars ∘ chars) = (e :: es).map chars :=
        List.map_congr_left fun e' _ => e'.trimChars_chars
      rw [htrim, List.filter_eq_self]
      intro p hp
      obtain ⟨e', _, rfl⟩ := List.mem_map.mp hp
      exact decide_eq_true e'.chars_ne_nil

/-- **An entry names its sheet**, whatever the name is made of. -/
theorem splitSheet_chars : splitSheet e.chars = (some e.sheet.toList, e.rect.markedChars e.marks) :=
  splitSheet_named (e.rect.spelled_markedChars e.marks) _

theorem onSheet?_chars (sheet : String) : onSheet? (String.ofList e.chars) sheet
    = if e.sheet = sheet then some (String.ofList (e.rect.markedChars e.marks)) else none := by
  rw [onSheet?, splitSheetText, String.toList_ofList, splitSheet_chars]
  dsimp only [Option.map_some]
  rw [String.ofList_toList, Text.trim, String.toList_ofList,
    (e.rect.spelled_markedChars e.marks).trimChars]

variable {e}

/-- **An entry is read on its own sheet and on no other.** -/
theorem rect?_onSheet?_chars (h : e.rect.OnSheet) (sheet : String) :
    (onSheet? (String.ofList e.chars) sheet).bind rect?
      = if e.sheet = sheet then some e.rect else none := by
  rw [onSheet?_chars]
  split
  · rw [Option.bind_some, rect?, String.toList_ofList,
      range?_of_spelled (e.rect.spelled_markedChars e.marks) h]
  · rfl

end ListedArea

end Reference

namespace PrintArea

open Reference

/--
**A list of areas is read back exactly.** For every sheet, what is read are the areas that were listed
with its name, in their order, each where it comes first; the names may be any texts, and the ranges
may have dollar signs or not.
-/
theorem listOf_listText (es : List ListedArea) (h : ∀ e ∈ es, e.rect.OnSheet)
    (sheet : String) : listOf (ListedArea.listText es) sheet
      = ((es.filter fun e => e.sheet = sheet).map fun e => ofRect e.rect).eraseDups := by
  -- an entry with another name gives nothing, and so is as good as left out before
  have hfilter : (es.filter fun e => e.sheet = sheet).map (fun e => ofRect e.rect)
      = es.filterMap fun e => if e.sheet = sheet then some (ofRect e.rect) else none := by
    rw [← List.filterMap_eq_map, List.filterMap_filter]
    simp
  rw [listOf, areaTexts, ListedArea.listText, String.toList_ofList, ListedArea.areas_intercalate,
    List.map_map, List.filterMap_map, hfilter]
  refine congrArg List.eraseDups (List.filterMap_congr fun e he => ?_)
  rw [Function.comp_apply, Function.comp_apply, ListedArea.rect?_onSheet?_chars (h e he)]
  split <;> rfl

/-- A list of five areas on three sheets, with names that look like lists and like no name at all. -/
def hostileList : List ListedArea :=
  [⟨"It's, A1!", ⟨0, 0, 1, 1, by decide, by decide⟩, ⟨true, true, true, true⟩⟩,
    ⟨" 'a'!B2,'It''s, A1!'!C3 ", ⟨3, 1, 4, 2, by decide, by decide⟩, {}⟩,
    ⟨"It's, A1!", ⟨5, 2, 5, 2, by decide, by decide⟩, {}⟩,
    ⟨"", ⟨7, 0, 8, 27, by decide, by decide⟩, ⟨true, false, false, true⟩⟩,
    ⟨"It's, A1!", ⟨0, 0, 1, 1, by decide, by decide⟩, {}⟩]

theorem listOf_listText_hostile :
    (∀ e ∈ hostileList, e.rect.OnSheet)
      ∧ ListedArea.listText hostileList = "'It''s, A1!'!$A$1:$B$2," ++
        "' ''a''!B2,''It''''s, A1!''!C3 '!B4:C5,'It''s, A1!'!C6:C6,''!$A8:AB$9,'It''s, A1!'!A1:B2"
      ∧ listOf (ListedArea.listText hostileList) "It's, A1!" = [⟨1, 0, 2, 1⟩, ⟨6, 2, 6, 2⟩]
      ∧ listOf (ListedArea.listText hostileList) "" = [⟨8, 0, 9, 27⟩] := by
  have h : ∀ e ∈ hostileList, e.rect.OnSheet := by decide
  refine ⟨h, by decide +kernel, ?_, ?_⟩
  · rw [listOf_listText hostileList h]
    decide
  · rw [listOf_listText hostileList h]
    decide

end PrintArea

end Sheetwise
