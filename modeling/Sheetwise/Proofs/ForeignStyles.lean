import Sheetwise.Proofs.Nesting
import Sheetwise.Proofs.StyleSections

/-!
# Elements outside of the sections of styles

Only what stands in a section of the styles should count. Elsewhere the same names occur with another
meaning: a fill in a conditional format, a number format in an extension. The reader keeps no tree,
only whether the last tag of each section was a start tag. But the tags are nested, so outside of all
sections none of the flags is set, and fills, borders and styles are not looked at there.

Number formats are. They are read wherever they stand but between the tags of conditional formats, so
one in an extension is taken for one that styles refer to. That is the only way in which an element
outside of the sections can count, as long as it does not end the conditional formats that it stands
in, which a second element of that name would do. What it can change are dates, for styles that have
its number.
-/

namespace Sheetwise.Styles

open Markup

variable {s s' : State} {e : Element} {ev : Event} {es before inner after : List Event}
  {staysOpen : Bool}

/-- The sections that styles are read from. -/
def sections : List String := ["numFmts", "fills", "borders", "cellXfs"]

/-! ## Places -/

theorem mem_foldl_descend {name : String} {outer : List String} {isOpen : Bool}
    (hnested : Nested outer es) (hopen : isOpen = true → name ∈ outer)
    (hmark : es.foldl (mark name) isOpen = true) : name ∈ es.foldl descend outer := by
  induction hnested generalizing isOpen with
  | nil => exact hopen hmark
  | opening _ ih =>
      refine ih (fun h => ?_) hmark
      simp only [mark] at h
      split at h
      · next heq => exact heq ▸ List.mem_cons_self
      · exact List.mem_cons_of_mem _ (hopen h)
  | selfClosing _ ih =>
      refine ih (fun h => ?_) hmark
      simp only [mark] at h
      split at h
      · cases h
      · exact hopen h
  | closing _ ih =>
      refine ih (fun h => ?_) hmark
      simp only [mark] at h
      split at h
      · cases h
      · next hne => exact (List.mem_cons.mp (hopen h)).resolve_left (Ne.symm hne)
  | text _ ih => exact ih hopen hmark

/-- An element whose last tag was a start tag is open. -/
theorem mem_path_of_within {name : String} (hnested : Nested [] es) (h : within name es = true) :
    name ∈ path es :=
  mem_foldl_descend hnested (fun h => by cases h) h

/-- A border is begun by its own element, among the borders. -/
theorem inBorder_start (h : start s e staysOpen = .ok s') (hborder : s'.inBorder = true) :
    s.inBorder = true ∨ e.name = "border" ∧ staysOpen = true ∧ s.inBorders = true := by
  rw [(started_of_start h).inBorder] at hborder
  split at hborder
  · next hread =>
    simp only [Bool.and_eq_true, decide_eq_true_eq] at hread
    exact .inr ⟨hread.1.1, hborder, hread.1.2⟩
  · exact .inl hborder

/-- A border is ended by its own element. -/
theorem inBorder_finish (s : State) (name : String) :
    (finish s name).inBorder = if name = "border" then false else s.inBorder := by
  unfold finish
  split <;> simp_all

/-- Inside of a border, its element is open, and around it that of the borders. -/
theorem path_of_inBorder (hnested : Nested [] es) (h : es.foldlM step {} = .ok s)
    (hborder : s.inBorder = true) :
    ∃ inner outer, path es = inner ++ "border" :: outer ∧ "borders" ∈ outer := by
  induction es using List.reverseRecOn generalizing s with
  | nil =>
      cases h
      cases hborder
  | append_singleton es ev ih =>
      obtain ⟨hes, hlast⟩ := nested_append_iff.mp hnested
      rw [List.foldlM_append] at h
      obtain ⟨s₁, hrun, h⟩ := Checked.bind_eq_ok.mp h
      obtain ⟨s₂, hstep, h⟩ := Checked.bind_eq_ok.mp h
      cases h
      rw [path_append_singleton]
      cases ev with
      | opening e =>
          rcases inBorder_start hstep hborder with hbefore | ⟨hname, -, hborders⟩
          · obtain ⟨inner, outer, hpath, hmem⟩ := ih hes hrun hbefore
            exact ⟨e.name :: inner, outer, by rw [descend, hpath]; rfl, hmem⟩
          · rw [(follows_of_foldlM hrun).inBorders] at hborders
            exact ⟨[], path es, by rw [descend, hname]; rfl, mem_path_of_within hes hborders⟩
      | selfClosing e =>
          rcases inBorder_start hstep hborder with hbefore | ⟨-, hopen, -⟩
          · exact ih hes hrun hbefore
          · cases hopen
      | text t =>
          cases hstep
          exact ih hes hrun hborder
      | closing name =>
          cases hstep
          rw [inBorder_finish] at hborder
          split at hborder
          · cases hborder
          · next hne =>
            obtain ⟨inner, outer, hpath, hmem⟩ := ih hes hrun hborder
            -- what is closed is the innermost element, and that is not the border
            obtain ⟨rest, htop⟩ := hlast.eq_cons_of_closing
            have htop : inner ++ "border" :: outer = name :: rest := hpath.symm.trans htop
            cases inner with
            | nil => exact absurd (List.cons.inj htop).1.symm hne
            | cons a inner => exact ⟨inner, outer, by rw [descend, hpath]; rfl, hmem⟩

/-- None of the elements is open whose content is looked at. -/
structure State.Outside (s : State) : Prop where
  inFills : s.inFills = false
  inBorders : s.inBorders = false
  inEntries : s.inEntries = false
  inBorder : s.inBorder = false

/-- Outside of the sections none of the flags is set. -/
theorem outside_of_foldlM (hnested : Nested [] es) (h : es.foldlM step {} = .ok s)
    (hplace : ∀ name ∈ sections, name ∉ path es) : s.Outside := by
  have hs := follows_of_foldlM h
  have hclosed {name : String} (hname : name ∈ sections) : within name es = false := by
    rw [← Bool.not_eq_true]
    exact fun hwithin => hplace name hname (mem_path_of_within hnested hwithin)
  constructor
  · rw [hs.inFills, hclosed (by decide)]
  · rw [hs.inBorders, hclosed (by decide)]
  · rw [hs.inEntries, hclosed (by decide)]
  · rw [← Bool.not_eq_true]
    intro hborder
    obtain ⟨inner, outer, hpath, hmem⟩ := path_of_inBorder hnested h hborder
    refine hplace "borders" (by decide) ?_
    rw [hpath]
    exact List.mem_append_right _ (List.mem_cons_of_mem _ hmem)

/-! ## What is gathered -/

/-- What is read of some events, each by whether the last tag of a name was a start tag. -/
def gather {α : Type} (name : String) (read : Bool → Event → List α) : Bool → List Event → List α
  | _, [] => []
  | isOpen, ev :: es => read isOpen ev ++ gather name read (mark name isOpen ev) es

theorem gather_append {α : Type} (name : String) (read : Bool → Event → List α) (isOpen : Bool)
    (es es' : List Event) : gather name read isOpen (es ++ es')
      = gather name read isOpen es ++ gather name read (es.foldl (mark name) isOpen) es' := by
  induction es generalizing isOpen with
  | nil => rfl
  | cons ev es ih => rw [List.cons_append, gather, gather, ih, List.append_assoc, List.foldl_cons]

/-- The number and the code of a number format, unless it is among conditional formats. -/
def codeOf (conditional : Bool) (e : Element) : List (Nat × String) :=
  if e.name = "numFmt" && !conditional then
    ((e.get? "formatCode").map fun code => (wordOf e "numFmtId", code)).toList
  else []

/-- The number format that an event is the start of. -/
def codeAt (conditional : Bool) (ev : Event) : List (Nat × String) :=
  ev.element?.elim [] (codeOf conditional)

/-- The number formats among some events, which may stand among conditional formats. -/
def codesFrom : Bool → List Event → List (Nat × String) := gather "dxfs" codeAt

/-- The number formats of a part, wherever they stand. -/
def codes (es : List Event) : List (Nat × String) := codesFrom false es

/-- The code of a number format, the last one of its number. -/
def codeFor (n : Nat) (es : List Event) : Option String := (SortedMap.ofList (codes es)).get? n

/-- The number format of a style that cells refer to. -/
def numberOf (among : Bool) (e : Element) : List Nat :=
  if e.name = "xf" && among then [wordOf e "numFmtId"] else []

/-- The number format of the style that an event is the start of. -/
def numberAt (among : Bool) (ev : Event) : List Nat := ev.element?.elim [] (numberOf among)

/-- The number formats of the styles that cells refer to. -/
def used (es : List Event) : List Nat := gather "cellXfs" numberAt false es

/-- A map with the number formats of a list, each replacing an earlier one of its number. -/
def addCodes (m : SortedMap Nat String) (cs : List (Nat × String)) : SortedMap Nat String :=
  cs.foldl (fun m c => m.insert c.1 c.2) m

theorem addCodes_append (m : SortedMap Nat String) (cs cs' : List (Nat × String)) :
    addCodes m (cs ++ cs') = addCodes (addCodes m cs) cs' := List.foldl_append

theorem ofList_append (cs cs' : List (Nat × String)) :
    SortedMap.ofList (cs ++ cs') = addCodes (SortedMap.ofList cs) cs' := List.foldl_append

theorem codesFrom_append (conditional : Bool) (es es' : List Event) :
    codesFrom conditional (es ++ es')
      = codesFrom conditional es ++ codesFrom (es.foldl (mark "dxfs") conditional) es' :=
  gather_append _ _ _ _ _

/-! ## Number formats -/

theorem codeOf_of_ne {conditional : Bool} (h : e.name ≠ "numFmt") : codeOf conditional e = [] := by
  simp [codeOf, h]

/-- Reading a number format adds it to the others. -/
theorem numberFormat_eq_addCodes (s : State) (hname : e.name = "numFmt") :
    (if s.inConditional then s else numberFormat s e)
      = { s with numberFormats := addCodes s.numberFormats (codeOf s.inConditional e) } := by
  split
  · next hconditional =>
    rw [show codeOf s.inConditional e = [] by simp [codeOf, hconditional]]
    rfl
  · next hconditional =>
    unfold numberFormat
    cases hcode : e.get? "formatCode" with
    | none =>
        rw [show codeOf s.inConditional e = [] by simp [codeOf, hcode]]
        rfl
    | some code =>
        rw [show codeOf s.inConditional e = [(wordOf e "numFmtId", code)] by
          simp [codeOf, hname, hconditional, hcode]]
        rfl

theorem fillColor_withFormats (s : State) (m : SortedMap Nat String) (e : Element) :
    fillColor { s with numberFormats := m } e
      = (fillColor s e).map fun s' => { s' with numberFormats := m } := by
  unfold fillColor
  dsimp only
  split
  · rfl
  · cases e.get? "rgb" with
    | none => rfl
    | some text =>
        dsimp only
        cases Color.ofHex? text <;> rfl

theorem side_withFormats (s : State) (m : SortedMap Nat String) (e : Element) :
    side { s with numberFormats := m } e = { side s e with numberFormats := m } := by
  unfold side
  split
  · split <;> rfl
  · rfl

theorem start_withFormats (s : State) (m : SortedMap Nat String) (e : Element) (staysOpen : Bool) :
    start { s with numberFormats := m } e staysOpen = (start s e staysOpen).map fun s' =>
      { s' with numberFormats := addCodes m (codeOf s.inConditional e) } := by
  unfold start
  split
  case h_1 hname =>
    rw [numberFormat_eq_addCodes s hname]
    exact congrArg Except.ok (numberFormat_eq_addCodes { s with numberFormats := m } hname)
  case h_8 hname =>
    rw [codeOf_of_ne (by rw [hname]; decide)]
    dsimp only
    split
    · exact fillColor_withFormats s m e
    · rfl
  case h_11 hnumFmt _ _ _ _ _ _ _ _ _ =>
    rw [codeOf_of_ne hnumFmt]
    dsimp only
    split
    · rw [side_withFormats]
      rfl
    · rfl
  case h_6 hname | h_7 hname | h_9 hname | h_10 hname =>
    rw [codeOf_of_ne (by rw [hname]; decide)]
    dsimp only
    split <;> rfl
  case h_2 hname | h_3 hname | h_4 hname | h_5 hname =>
    rw [codeOf_of_ne (by rw [hname]; decide)]
    rfl

/--
**What is read of an event does not depend on the number formats**, and neither does what it adds to
them.
-/
theorem step_withFormats (s : State) (m : SortedMap Nat String) (ev : Event) :
    step { s with numberFormats := m } ev = (step s ev).map fun s' =>
      { s' with numberFormats := addCodes m (codeAt s.inConditional ev) } := by
  cases ev with
  | opening e => exact start_withFormats s m e true
  | selfClosing e => exact start_withFormats s m e false
  | closing name =>
      simp only [step, finish]
      split <;> rfl
  | text t => rfl

/-- What is read does not depend on the number formats that were read before. -/
theorem foldlM_withFormats (s : State) (m : SortedMap Nat String) (es : List Event) :
    es.foldlM step { s with numberFormats := m } = (es.foldlM step s).map fun s' =>
      { s' with numberFormats := addCodes m (codesFrom s.inConditional es) } := by
  induction es generalizing s m with
  | nil => rfl
  | cons ev es ih =>
      rw [List.foldlM_cons, List.foldlM_cons, step_withFormats]
      cases hev : step s ev with
      | error fault => rfl
      | ok s₁ =>
          show es.foldlM step _ = Except.map _ (es.foldlM step s₁)
          rw [ih, (flags_step hev).2.2.2, codesFrom, gather, addCodes_append]

theorem numberFormats_of_foldlM (h : es.foldlM step {} = .ok s) :
    s.numberFormats = SortedMap.ofList (codes es) := by
  have hrun := foldlM_withFormats {} ∅ es
  rw [show ({ ({} : State) with numberFormats := ∅ } : State) = {} from rfl, h] at hrun
  exact congrArg State.numberFormats (Except.ok.inj hrun)

/-! ## Styles -/

theorem entries_start (h : start s e staysOpen = .ok s') : s'.entries.map Entry.numberFormat
    = (numberOf s.inEntries e).reverse ++ s.entries.map Entry.numberFormat := by
  rw [(started_of_start h).entries]
  unfold numberOf
  split <;> rfl

theorem entries_step (h : step s ev = .ok s') : s'.entries.map Entry.numberFormat
    = (numberAt s.inEntries ev).reverse ++ s.entries.map Entry.numberFormat := by
  cases ev with
  | opening e => exact entries_start h
  | selfClosing e => exact entries_start h
  | closing name =>
      cases h
      unfold finish
      split <;> rfl
  | text t =>
      cases h
      rfl

theorem entries_foldlM (h : es.foldlM step s = .ok s') : s'.entries.map Entry.numberFormat
    = (gather "cellXfs" numberAt s.inEntries es).reverse ++ s.entries.map Entry.numberFormat := by
  induction es generalizing s with
  | nil =>
      cases h
      rfl
  | cons ev es ih =>
      rw [List.foldlM_cons] at h
      obtain ⟨s₁, hev, h⟩ := Checked.bind_eq_ok.mp h
      rw [ih h, entries_step hev, (flags_step hev).2.2.1, gather, List.reverse_append,
        List.append_assoc]

/-- The styles in order have the number formats that are gathered. -/
theorem used_of_foldlM (h : es.foldlM step {} = .ok s) :
    s.entries.reverse.map Entry.numberFormat = used es := by
  rw [List.map_reverse, entries_foldlM h]
  simp [used]

/-! ## Foreign elements -/

/-- Outside of the sections an element of another name is looked at for nothing but a number format. -/
theorem start_foreign (hs : s.Outside) (hname : e.name ∉ sections) :
    start s e staysOpen = .ok { s with
      inConditional := if e.name = "dxfs" then staysOpen else s.inConditional
      numberFormats := addCodes s.numberFormats (codeOf s.inConditional e) } := by
  unfold start
  split
  case h_1 hnumFmt =>
    rw [numberFormat_eq_addCodes s hnumFmt, if_neg (by rw [hnumFmt]; decide)]
  case h_2 hsection | h_3 hsection | h_4 hsection =>
    rw [hsection] at hname
    exact absurd (by decide) hname
  case h_5 hdxfs =>
    rw [codeOf_of_ne (by rw [hdxfs]; decide), if_pos hdxfs]
    rfl
  case h_6 hfill | h_7 hfill | h_8 hfill =>
    rw [codeOf_of_ne (by rw [hfill]; decide), if_neg (by simp [hs.inFills]),
      if_neg (by rw [hfill]; decide)]
    rfl
  case h_9 hborder =>
    rw [codeOf_of_ne (by rw [hborder]; decide), if_neg (by simp [hs.inBorders]),
      if_neg (by rw [hborder]; decide)]
    rfl
  case h_10 hxf =>
    rw [codeOf_of_ne (by rw [hxf]; decide), if_neg (by simp [hs.inEntries]),
      if_neg (by rw [hxf]; decide)]
    rfl
  case h_11 hnumFmt _ _ _ hdxfs _ _ _ _ _ =>
    rw [codeOf_of_ne hnumFmt, if_neg (by simp [hs.inBorder]), if_neg hdxfs]
    rfl

theorem step_foreign (hs : s.Outside) (hev : ∀ name ∈ ev.name?, name ∉ sections) :
    step s ev = .ok { s with
      inConditional := mark "dxfs" s.inConditional ev
      numberFormats := addCodes s.numberFormats (codeAt s.inConditional ev) } := by
  cases ev with
  | opening e => exact start_foreign hs (hev e.name rfl)
  | selfClosing e => exact start_foreign hs (hev e.name rfl)
  | closing name =>
      have hname : name ∉ sections := hev name rfl
      simp only [step, finish, mark]
      split
      case h_1 | h_2 | h_4 => exact absurd (by decide) hname
      case h_3 => rw [← hs.inBorder]; rfl
      case h_5 => rfl
      case h_6 hdxfs => rw [if_neg hdxfs]; rfl
  | text t => rfl

theorem foldlM_foreign (hs : s.Outside) (hes : ∀ name ∈ names es, name ∉ sections) :
    es.foldlM step s = .ok { s with
      inConditional := es.foldl (mark "dxfs") s.inConditional
      numberFormats := addCodes s.numberFormats (codesFrom s.inConditional es) } := by
  induction es generalizing s with
  | nil => rfl
  | cons ev es ih =>
      have hev : ∀ name ∈ ev.name?, name ∉ sections := fun name hname =>
        hes name (mem_names_cons.mpr (.inl hname))
      have hrest : ∀ name ∈ names es, name ∉ sections := fun name hname =>
        hes name (mem_names_cons.mpr (.inr hname))
      rw [List.foldlM_cons, step_foreign hs hev]
      have hs' : State.Outside { s with
          inConditional := mark "dxfs" s.inConditional ev
          numberFormats := addCodes s.numberFormats (codeAt s.inConditional ev) } :=
        ⟨hs.inFills, hs.inBorders, hs.inEntries, hs.inBorder⟩
      show es.foldlM step _ = _
      rw [ih hs' hrest]
      simp only [codesFrom, gather, addCodes_append, List.foldl_cons]

theorem foldl_mark_of_notMem {name : String} {isOpen : Bool} (h : name ∉ names es) :
    es.foldl (mark name) isOpen = isOpen := by
  induction es with
  | nil => rfl
  | cons ev es ih =>
      have hev : ev.name? ≠ some name := fun hname => h (mem_names_cons.mpr (.inl hname))
      have hkeep : mark name isOpen ev = isOpen := by
        cases ev with
        | text t => rfl
        | opening e | selfClosing e | closing n => exact if_neg fun heq => hev (congrArg some heq)
      rw [List.foldl_cons, hkeep]
      exact ih fun hname => h (mem_names_cons.mpr (.inr hname))

/-- Whole elements leave the last tag of a name as it was, unless they end what is open. -/
theorem foldl_mark_of_whole {name : String} {isOpen : Bool} (hes : Whole es)
    (h : isOpen = true → name ∉ names es) : es.foldl (mark name) isOpen = isOpen := by
  cases isOpen with
  | true => exact foldl_mark_of_notMem (h rfl)
  | false =>
      rw [← Bool.not_eq_true]
      intro hwithin
      have hmem := mem_path_of_within hes.nested hwithin
      rw [hes.path] at hmem
      exact List.not_mem_nil hmem

/--
Elements that stand outside of the sections and are none of them, with all that they contain, in the
place after some events. They do not end the conditional formats that they stand in.
-/
structure Foreign (before inner : List Event) : Prop where
  place : ∀ name ∈ sections, name ∉ path before
  whole : Whole inner
  names : ∀ name ∈ names inner, name ∉ sections
  conditional : within "dxfs" before = true → "dxfs" ∉ Markup.names inner

theorem Foreign.codes_eq (h : Foreign before inner) (after : List Event) :
    codes (before ++ inner ++ after) = codes before ++ codesFrom (within "dxfs" before) inner
      ++ codesFrom (within "dxfs" before) after := by
  rw [codes, codesFrom_append, codesFrom_append, List.foldl_append]
  show _ ++ codesFrom (inner.foldl (mark "dxfs") (within "dxfs" before)) after = _
  rw [foldl_mark_of_whole h.whole h.conditional]
  rfl

/-- **Foreign elements change nothing of what is read but the number formats.** -/
theorem Foreign.foldlM_eq (h : Foreign before inner) (hnested : Nested [] before) (after : List Event) :
    (before ++ inner ++ after).foldlM step {} = ((before ++ after).foldlM step {}).map fun s =>
      { s with numberFormats := SortedMap.ofList (codes (before ++ inner ++ after)) } := by
  rw [List.foldlM_append, List.foldlM_append, List.foldlM_append, h.codes_eq]
  cases hbefore : before.foldlM step {} with
  | error fault => rfl
  | ok s =>
      have hs := follows_of_foldlM hbefore
      have houtside := outside_of_foldlM hnested hbefore h.place
      show (inner.foldlM step s >>= fun s' => after.foldlM step s')
        = Except.map _ (after.foldlM step s)
      rw [foldlM_foreign houtside h.names, hs.inConditional,
        foldl_mark_of_whole h.whole h.conditional, ← hs.inConditional]
      refine (foldlM_withFormats s _ after).trans ?_
      rw [numberFormats_of_foldlM hbefore]
      simp only [ofList_append]

/-! ## Parts that differ in foreign elements -/

/-- Text is not looked at. -/
theorem foldlM_tags (s : State) (es : List Event) : (tags es).foldlM step s = es.foldlM step s := by
  induction es generalizing s with
  | nil => rfl
  | cons ev es ih =>
      cases ev with
      | text t => exact ih s
      | opening e | selfClosing e | closing name =>
          show (_ :: tags es).foldlM step s = _
          rw [List.foldlM_cons, List.foldlM_cons]
          exact congrArg _ (funext ih)

/-- The styles of a package have some tags, up to the end of the part or up to what cannot be read. -/
def HasTags (p : Package) (ts : List Event) (wellFormed : Bool) : Prop :=
  ∃ es, p.events? .trimmed "xl/styles.xml" = some es ∧ tags es.events = ts
    ∧ es.wellFormed = wellFormed

/-- What was read, without the dates. -/
def undated (result : Checked (Except ReadError (List CellStyle))) :
    Checked (Except ReadError (List CellStyle)) :=
  result.map (Except.map (List.map fun style => { style with isDate := false }))

/-- With other number formats, styles are the same if each shows its numbers as dates as before. -/
theorem styles_withFormats_inj (s : State) (m m' : SortedMap Nat String) :
    State.styles { s with numberFormats := m } = State.styles { s with numberFormats := m' }
      ↔ ∀ n ∈ s.entries.reverse.map Entry.numberFormat,
        NumberFormat.isDate n (m.get? n) = NumberFormat.isDate n (m'.get? n) := by
  unfold State.styles
  rw [List.map_inj_left, List.forall_mem_map]
  refine forall₂_congr fun x _ => ?_
  simp [Entry.style]

theorem undated_withFormats (s : State) (m m' : SortedMap Nat String) (r : Except ReadError Unit) :
    undated (.ok (r.map fun _ => State.styles { s with numberFormats := m }))
      = undated (.ok (r.map fun _ => State.styles { s with numberFormats := m' })) := by
  cases r with
  | error fault => rfl
  | ok u =>
      unfold undated State.styles
      simp [Except.map, Entry.style]

/-- The styles of a package with foreign elements are those without, with other number formats. -/
theorem run_read_of_foreign {p : Package} {wellFormed : Bool}
    (hp : HasTags p (before ++ inner ++ after) wellFormed) (h : Foreign before inner) :
    (read p).run = ((before ++ after).foldlM step {}).map fun s =>
      (Events.mk [] wellFormed).checked.map fun _ => State.styles
        { s with numberFormats := SortedMap.ofList (codes (before ++ inner ++ after)) } := by
  obtain ⟨es, hes, htags, rfl⟩ := hp
  have hnested : Nested [] (before ++ inner ++ after) := by
    obtain ⟨bs, -, rfl⟩ := Option.map_eq_some_iff.mp hes
    exact htags ▸ (nested_ofBytes .trimmed bs).tags
  rw [List.append_assoc] at hnested
  rw [run_read_eq hes, ofEvents_eq, ← foldlM_tags, htags,
    h.foldlM_eq (nested_append_iff.mp hnested).1 after]
  cases (before ++ after).foldlM step {} <;> rfl

/--
**Foreign elements count for nothing but dates, and for these only through their number formats.** Two
parts of styles that differ in foreign elements are read alike: as the same error, or as tables of the
same length with the same fills and borders. The tables are the same just if each number that a style
has is that of a date in both parts or in neither. They are if the same number formats are read in the
elements, none at all for example.
-/
theorem reads_alike_of_foreign {p p' : Package} {inner' : List Event} {wellFormed : Bool}
    (hp : HasTags p (before ++ inner ++ after) wellFormed)
    (hp' : HasTags p' (before ++ inner' ++ after) wellFormed)
    (h : Foreign before inner) (h' : Foreign before inner') :
    undated (read p).run = undated (read p').run
      ∧ ((read p).run = (read p').run ↔ ∀ styles, (read p).run = .ok (.ok styles) →
        ∀ n ∈ used (before ++ after), NumberFormat.isDate n (codeFor n (before ++ inner ++ after))
          = NumberFormat.isDate n (codeFor n (before ++ inner' ++ after)))
      ∧ (codesFrom (within "dxfs" before) inner = codesFrom (within "dxfs" before) inner' →
        (read p).run = (read p').run) := by
  rw [run_read_of_foreign hp h, run_read_of_foreign hp' h']
  cases hbase : (before ++ after).foldlM step {} with
  | error fault =>
      refine ⟨rfl, iff_of_true rfl fun _ hstyles => ?_, fun _ => rfl⟩
      cases hstyles
  | ok s =>
      refine ⟨undated_withFormats s _ _ _, ?_, fun hcodes => ?_⟩
      · cases wellFormed with
        | false =>
            refine iff_of_true rfl fun _ hstyles => ?_
            cases hstyles
        | true =>
            rw [← used_of_foldlM hbase]
            have hdates := styles_withFormats_inj s
              (SortedMap.ofList (codes (before ++ inner ++ after)))
              (SortedMap.ofList (codes (before ++ inner' ++ after)))
            constructor
            · intro heq _ _
              exact hdates.mp (Except.ok.inj (Except.ok.inj heq))
            · intro hsame
              exact congrArg (Except.ok ∘ Except.ok) (hdates.mpr (hsame _ rfl))
      · rw [h.codes_eq, h'.codes_eq, hcodes]

/-! ## A number format in an extension -/

/-- The tags up to the end of one style. -/
def oneStyle : List Event :=
  [.opening ⟨"styleSheet", []⟩, .opening ⟨"cellXfs", []⟩,
    .selfClosing ⟨"xf", [("numFmtId", some "164")]⟩, .closing "cellXfs"]

/-- The tags of an extension with a number format in it. -/
def extension : List Event :=
  [.opening ⟨"extLst", []⟩, .opening ⟨"x14:dxfs", []⟩,
    .selfClosing ⟨"numFmt", [("numFmtId", some "164"), ("formatCode", some "yyyy")]⟩,
    .closing "x14:dxfs", .closing "extLst"]

/-- Styles without the extension. -/
def plain : Package where
  parts := [("xl/styles.xml",
    bytes "<styleSheet><cellXfs><xf numFmtId='164'/></cellXfs></styleSheet>")]

/-- Styles with the extension. -/
def extended : Package where
  parts := [("xl/styles.xml",
    bytes ("<styleSheet><cellXfs><xf numFmtId='164'/></cellXfs><extLst><x14:dxfs>"
      ++ "<numFmt numFmtId='164' formatCode='yyyy'/></x14:dxfs></extLst></styleSheet>"))]

theorem events?_plain : plain.events? .trimmed "xl/styles.xml"
    = some ⟨oneStyle ++ [.closing "styleSheet"], true⟩ := by decide +kernel

theorem events?_extended : extended.events? .trimmed "xl/styles.xml"
    = some ⟨oneStyle ++ extension ++ [.closing "styleSheet"], true⟩ := by decide +kernel

/-- Styles with and without the extension are read alike but for a date. -/
theorem reads_alike_of_extension :
    undated (read plain).run = undated (read extended).run
      ∧ (read plain).run ≠ (read extended).run := by
  have hplain : HasTags plain (oneStyle ++ [] ++ [.closing "styleSheet"]) true :=
    ⟨_, events?_plain, by decide, rfl⟩
  have hextended : HasTags extended (oneStyle ++ extension ++ [.closing "styleSheet"]) true :=
    ⟨_, events?_extended, by decide, rfl⟩
  have hnone : Foreign oneStyle [] := ⟨by decide, ⟨.nil, rfl⟩, by decide, by decide⟩
  have hextension : Foreign oneStyle extension :=
    ⟨by decide, ⟨.opening (.opening (.selfClosing (.closing (.closing .nil)))), rfl⟩, by decide,
      by decide⟩
  obtain ⟨halike, hsame, -⟩ := reads_alike_of_foreign hplain hextended hnone hextension
  refine ⟨halike, fun heq => ?_⟩
  -- the style has the number of the format in the extension
  have hdate := hsame.mp heq [{}] (by rw [run_read_eq events?_plain]; rfl) 164 (by decide)
  revert hdate
  decide +kernel

/-- **A number format in an extension makes a date of a style.** -/
theorem extension_makes_date : (read plain).run = .ok (.ok [{}])
    ∧ (read extended).run = .ok (.ok [{ isDate := true }]) := by
  constructor
  · rw [run_read_eq events?_plain]
    rfl
  · have hdate : ofEvents (oneStyle ++ extension ++ [.closing "styleSheet"])
        = .ok [{ isDate := true }] := by decide +kernel
    rw [run_read_eq events?_extended, hdate]
    rfl

end Sheetwise.Styles
