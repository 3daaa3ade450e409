import Sheetwise.Proofs.Representation
import Sheetwise.Proofs.StyleSections

/-!
# When styles can be read

Next to everything in a part of styles is taken as it comes: a number that cannot be read is zero, a
fill of a kind that is not known has a colour all the same, and a colour that is none is left out. The
one thing that ends the reading is a colour of eight bytes. The first two are its opacity, and they are
cut off before anyone looks whether they are digits. In text that is not ASCII the cut may fall inside a
character, and then there is no rest to look at.

The cut is made only where a colour is asked for, in a fill that is listed. Whether a colour stands in
such a place is told by the tags before it.
-/

namespace Sheetwise

/-! ## Colours -/

namespace Color

/-- A colour of eight bytes that cannot be cut after the second, which is not the last of a character. -/
def Splits (s : String) : Prop :=
  Text.utf8Length (bare s) = 8
    ∧ ¬ ∃ front back, bare s = front ++ back ∧ Text.utf8Length front = 2

/-- Characters that take two bytes are cut off. -/
theorem afterTwoBytes?_append {front : List Char} (h : Text.utf8Length front = 2) (back : List Char) :
    afterTwoBytes? (front ++ back) = some back := by
  cases front with
  | nil => cases h
  | cons a front =>
      rw [Text.utf8Length_cons] at h
      cases front with
      | nil =>
          have ha : a.utf8Size = 2 := h
          unfold afterTwoBytes?
          exact if_pos ha
      | cons b front =>
          -- two characters at least, so there are two and each takes one byte
          rw [Text.utf8Length_cons] at h
          have ha := a.utf8Size_pos
          have hb := b.utf8Size_pos
          cases front with
          | nil =>
              have hrest : Text.utf8Length [] = 0 := rfl
              have hone : ¬ a.utf8Size = 2 := by omega
              have hboth : a.utf8Size = 1 ∧ b.utf8Size = 1 := by omega
              unfold afterTwoBytes?
              exact (if_neg hone).trans (if_pos hboth)
          | cons c front =>
              have hc := c.utf8Size_pos
              rw [Text.utf8Length_cons] at h
              omega

theorem afterTwoBytes?_eq_none_iff {cs : List Char} : afterTwoBytes? cs = none
    ↔ ¬ ∃ front back, cs = front ++ back ∧ Text.utf8Length front = 2 := by
  constructor
  · rintro h ⟨front, back, rfl, hfront⟩
    rw [afterTwoBytes?_append hfront] at h
    cases h
  · intro h
    rw [Option.eq_none_iff_forall_ne_some]
    intro rest hrest
    obtain ⟨front, hcs, hfront⟩ := eq_append_of_afterTwoBytes? hrest
    exact h ⟨front, rest, hcs, hfront⟩

theorem ofHex?_eq_error {s : String} {fault : Fault} :
    ofHex? s = .error fault ↔ fault = .splitCharacter ∧ Splits s := by
  unfold ofHex? Splits
  rw [← afterTwoBytes?_eq_none_iff]
  dsimp only
  split
  · next hlength =>
    cases hcut : afterTwoBytes? (bare s) with
    | none => simp [hlength, eq_comm]
    | some rest => simp
  · next hlength => simp [hlength]
  · next hlength _ => exact iff_of_false (fun h => by cases h) fun h => hlength h.2.1

/-- **A text is read as a key or as no colour, unless it is to be cut inside a character.** -/
theorem exists_ofHex?_iff {s : String} :
    (∃ color, ofHex? s = .ok color ∧ ∀ key ∈ color, IsKey key) ↔ ¬ Splits s := by
  constructor
  · rintro ⟨color, hcolor, -⟩ hsplits
    rw [ofHex?_eq_error.mpr ⟨rfl, hsplits⟩] at hcolor
    cases hcolor
  · intro h
    cases hcolor : ofHex? s with
    | error fault => exact absurd (ofHex?_eq_error.mp hcolor).2 h
    | ok color =>
        refine ⟨color, rfl, fun key hkey => ?_⟩
        cases hkey
        exact isKey_of_ofHex? hcolor

end Color

/-! ## Styles -/

namespace Styles

open Markup

variable {s : State} {e : Element} {es : List Event} {staysOpen : Bool} {fault : Fault}

/-- Among the events, a fill is given a colour that is to be cut inside a character. -/
def MeetsSplit (es : List Event) : Prop :=
  ∃ before e text, AmongFills es before e ∧ e.name = "fgColor" ∧ HasFill before
    ∧ e.get? "rgb" = some text ∧ Color.Splits text

theorem fillColor_eq_error : fillColor s e = .error fault ↔ fault = .splitCharacter
    ∧ s.fills ≠ [] ∧ ∃ text, e.get? "rgb" = some text ∧ Color.Splits text := by
  unfold fillColor
  cases hfills : s.fills with
  | nil => exact iff_of_false (fun h => by cases h) fun h => h.2.1 rfl
  | cons f fills =>
      cases hrgb : e.get? "rgb" with
      | none => exact iff_of_false (fun h => by cases h) fun ⟨_, _, _, h, _⟩ => by cases h
      | some text =>
          have hcolor : (Color.ofHex? text = .error fault) ↔ fault = .splitCharacter ∧ f :: fills ≠ []
              ∧ ∃ text', some text = some text' ∧ Color.Splits text' := by
            simp [Color.ofHex?_eq_error]
          rw [← hcolor]
          cases hcut : Color.ofHex? text with
          | error fault' =>
              simp only [List.isEmpty_cons, Bool.false_eq_true, if_false, hcut]
              show Except.error fault' = _ ↔ _
              rw [Except.error.injEq, Except.error.injEq]
          | ok color =>
              simp only [List.isEmpty_cons, Bool.false_eq_true, if_false, hcut]
              exact iff_of_false (fun h => by cases h) fun h => by cases h

/-- The colour of a fill is the only element whose start can end in a fault. -/
theorem start_eq_error : start s e staysOpen = .error fault ↔ fault = .splitCharacter
    ∧ e.name = "fgColor" ∧ s.inFills = true ∧ s.inConditional = false ∧ s.fills ≠ []
    ∧ ∃ text, e.get? "rgb" = some text ∧ Color.Splits text := by
  have hother (h : ¬ e.name = "fgColor") : ¬ (fault = .splitCharacter ∧ e.name = "fgColor"
      ∧ s.inFills = true ∧ s.inConditional = false ∧ s.fills ≠ []
      ∧ ∃ text, e.get? "rgb" = some text ∧ Color.Splits text) := fun hall => h hall.2.1
  unfold start
  split
  case h_8 hname =>
    split
    · next hflags =>
      simp only [Bool.and_eq_true, Bool.not_eq_true'] at hflags
      simp only [fillColor_eq_error, hname, hflags, true_and]
    · next hflags =>
      simp only [Bool.and_eq_true, Bool.not_eq_true'] at hflags
      exact iff_of_false (fun h => by cases h) fun h => hflags ⟨h.2.2.1, h.2.2.2.1⟩
  case h_11 _ _ hname _ _ => exact iff_of_false (fun h => by cases h) (hother hname)
  case h_1 hname | h_2 hname | h_3 hname | h_4 hname | h_5 hname | h_6 hname | h_7 hname | h_9 hname
      | h_10 hname =>
    exact iff_of_false (fun h => by cases h) (hother (by rw [hname]; decide))

theorem step_eq_error {ev : Event} : step s ev = .error fault ↔ fault = .splitCharacter
    ∧ ∃ e, ev.element? = some e ∧ e.name = "fgColor" ∧ s.inFills = true ∧ s.inConditional = false
      ∧ s.fills ≠ [] ∧ ∃ text, e.get? "rgb" = some text ∧ Color.Splits text := by
  cases ev with
  | opening e =>
      show start s e true = _ ↔ _
      simpa [Event.element?] using start_eq_error
  | selfClosing e =>
      show start s e false = _ ↔ _
      simpa [Event.element?] using start_eq_error
  | closing name =>
      refine iff_of_false (fun h => by cases h) ?_
      rintro ⟨_, e, h, _⟩
      cases h
  | text t =>
      refine iff_of_false (fun h => by cases h) ?_
      rintro ⟨_, e, h, _⟩
      cases h

/-- **The events can be read unless a colour among them is to be cut inside a character.** -/
theorem foldlM_step_eq_error :
    es.foldlM step {} = .error fault ↔ fault = .splitCharacter ∧ MeetsSplit es := by
  have hmeets {fault : Fault} (h : es.foldlM step {} = .error fault) :
      fault = .splitCharacter ∧ MeetsSplit es := by
    obtain ⟨before, ev, after, s, rfl, hbefore, hev⟩ := Checked.foldlM_eq_error.mp h
    obtain ⟨rfl, e, helem, hname, hfills, hconditional, hsome, text, hrgb, hsplits⟩ :=
      step_eq_error.mp hev
    have hs := follows_of_foldlM hbefore
    rw [hs.inFills] at hfills
    rw [hs.inConditional] at hconditional
    exact ⟨rfl, before, e, text, ⟨ev, after, rfl, helem, hfills, hconditional⟩, hname,
      hs.fills.mp hsome, hrgb, hsplits⟩
  refine ⟨hmeets, ?_⟩
  rintro ⟨rfl, before, e, text, ⟨ev, after, rfl, helem, hfills, hconditional⟩, hname, hsome, hrgb,
    hsplits⟩
  -- the reading does not get past the colour
  cases hrun : (before ++ ev :: after).foldlM step {} with
  | error fault => rw [(hmeets hrun).1]
  | ok s' =>
      rw [List.foldlM_append] at hrun
      obtain ⟨s, hbefore, hrun⟩ := Checked.bind_eq_ok.mp hrun
      rw [List.foldlM_cons] at hrun
      obtain ⟨s₁, hev, -⟩ := Checked.bind_eq_ok.mp hrun
      have hs := follows_of_foldlM hbefore
      rw [← hs.inFills] at hfills
      rw [← hs.inConditional] at hconditional
      rw [step_eq_error.mpr ⟨rfl, e, helem, hname, hfills, hconditional, hs.fills.mpr hsome, text, hrgb,
        hsplits⟩] at hev
      cases hev

/-- The styles of a package end the reading. -/
def BreaksOff (p : Package) : Prop :=
  ∃ es, p.events? .trimmed "xl/styles.xml" = some es ∧ MeetsSplit es.events

theorem run_read_eq_error {p : Package} :
    (read p).run = .error fault ↔ fault = .splitCharacter ∧ BreaksOff p := by
  unfold BreaksOff
  cases hes : p.events? .trimmed "xl/styles.xml" with
  | none =>
      unfold read
      rw [hes]
      exact iff_of_false (fun h => by cases h) fun ⟨_, _, h, _⟩ => by cases h
  | some es =>
      rw [run_read_eq hes, Checked.map_eq_error, ofEvents_eq, Checked.map_eq_error,
        foldlM_step_eq_error]
      simp

/-- What may be read of styles: an error in their markup, or a table in which all fills are colours. -/
def Fine (result : Except ReadError (List CellStyle)) : Prop :=
  result = .error .markup
    ∨ ∃ styles, result = .ok styles ∧ ∀ style ∈ styles, ∀ color ∈ style.fill, Color.IsKey color

theorem fine_of_run_read {p : Package} {result : Except ReadError (List CellStyle)}
    (h : (read p).run = .ok result) : Fine result := by
  cases result with
  | ok styles => exact .inr ⟨styles, rfl, isKey_of_run_read h⟩
  | error e =>
      cases hes : p.events? .trimmed "xl/styles.xml" with
      | none =>
          unfold read at h
          rw [hes] at h
          cases h
      | some es =>
          rw [run_read_eq hes] at h
          obtain ⟨styles, -, h⟩ := Checked.map_eq_ok.mp h
          unfold Events.checked at h
          split at h
          · cases h
          · cases h
            exact .inl rfl

/--
**Styles can be read unless a listed fill has a colour that is to be cut inside a character.** What is
read is then an error of the markup, or a table in which every fill is absent or six hexadecimal digits
in upper case. Otherwise the reading breaks off. It is the same with a single colour.
-/
theorem reads_iff_not_breaksOff (p : Package) :
    ((∃ result, (read p).run = .ok result ∧ Fine result) ↔ ¬ BreaksOff p)
      ∧ (BreaksOff p → (read p).run = .error .splitCharacter)
      ∧ ∀ text, (∃ color, Color.ofHex? text = .ok color ∧ ∀ key ∈ color, Color.IsKey key)
        ↔ ¬ Color.Splits text := by
  have hfault (h : BreaksOff p) : (read p).run = .error .splitCharacter :=
    run_read_eq_error.mpr ⟨rfl, h⟩
  refine ⟨⟨?_, ?_⟩, hfault, fun text => Color.exists_ofHex?_iff⟩
  · rintro ⟨result, hresult, -⟩ h
    rw [hfault h] at hresult
    cases hresult
  · intro h
    cases hresult : (read p).run with
    | error fault => exact absurd (run_read_eq_error.mp hresult).2 h
    | ok result => exact ⟨result, rfl, fine_of_run_read hresult⟩

/-- Styles with a fill in a colour of four characters, the first two of which take three bytes each. -/
def euros : Package where
  parts := [("xl/styles.xml", bytes ("<fills><fill><patternFill patternType='solid'>"
    ++ "<fgColor rgb='&#8364;&#8364;ab'/></patternFill></fill></fills>"))]

/-- **Such a colour breaks off the reading**, which a longer one does not. -/
theorem read_breaks_off_at_euros :
    (read euros).run = .error .splitCharacter ∧ Color.ofHex? "€€ab" = .error .splitCharacter
      ∧ Color.ofHex? "€€abc" = .ok none := by
  have hcolor : Color.ofHex? "€€ab" = .error .splitCharacter := by decide +kernel
  refine ⟨run_read_eq_error.mpr ⟨rfl, ?_⟩, hcolor, by decide +kernel⟩
  refine ⟨⟨[.opening ⟨"fills", []⟩, .opening ⟨"fill", []⟩,
    .opening ⟨"patternFill", [("patternType", some "solid")]⟩,
    .selfClosing ⟨"fgColor", [("rgb", some "€€ab")]⟩,
    .closing "patternFill", .closing "fill", .closing "fills"], true⟩, by decide +kernel, ?_⟩
  refine ⟨[.opening ⟨"fills", []⟩, .opening ⟨"fill", []⟩,
    .opening ⟨"patternFill", [("patternType", some "solid")]⟩], _, "€€ab",
    ⟨_, _, rfl, rfl, rfl, rfl⟩, rfl, ?_, rfl, (Color.ofHex?_eq_error.mp hcolor).2⟩
  exact ⟨[.opening ⟨"fills", []⟩], _, ⟨_, _, rfl, rfl, rfl, rfl⟩, rfl⟩

end Styles

end Sheetwise
