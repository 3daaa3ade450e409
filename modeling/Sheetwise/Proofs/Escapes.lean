import Mathlib.Data.List.TakeWhile
import Sheetwise.Text.Escape

/-!
# Escapes are replaced from left to right

What it is to replace the escapes of a text is said without a reader: walk through the text; where it
goes on with an escape, put down the character and skip the escape; else put down one character and go
on with the next.

The reader goes on differently. It takes up to six characters before it knows whether they begin an
escape, and puts down all of them if they do not. That comes to the same because no escape can begin
inside of what it took: behind the first one there is an `x` and digits, and an escape begins with an
underscore. The underscore that might end the escape is left to be looked at again.
-/

namespace Sheetwise.Text

/-! ## Replacing -/

/-- Four hexadecimal digits that are the code of a character. -/
def IsCode (digits : List Char) (x : Char) : Prop :=
  ∃ i j k l, digits.map hexValue? = [some i, some j, some k, some l]
    ∧ x.toNat = 4096 * i + 256 * j + 16 * k + l

/-- The first text with every escape replaced by its character, from left to right, is the second. -/
inductive Unescapes : List Char → List Char → Prop where
  | nil : Unescapes [] []
  | escape {digits rest out : List Char} {x : Char} : IsCode digits x → Unescapes rest out →
      Unescapes ('_' :: 'x' :: (digits ++ '_' :: rest)) (x :: out)
  | other {c : Char} {cs out : List Char} :
      (∀ digits x rest, IsCode digits x → c :: cs ≠ '_' :: 'x' :: (digits ++ '_' :: rest)) →
      Unescapes cs out → Unescapes (c :: cs) (c :: out)

variable {digits rest cs out : List Char} {x : Char}

theorem IsCode.length (h : IsCode digits x) : digits.length = 4 := by
  obtain ⟨i, j, k, l, hmap, -⟩ := h
  have hlength : (digits.map hexValue?).length = digits.length := List.length_map _
  rw [← hlength, hmap]
  rfl

theorem IsCode.isHexDigit (h : IsCode digits x) {c : Char} (hc : c ∈ digits) :
    isHexDigit c = true := by
  obtain ⟨i, j, k, l, hmap, -⟩ := h
  have hmem : hexValue? c ∈ [some i, some j, some k, some l] := hmap ▸ List.mem_map_of_mem hc
  unfold Text.isHexDigit
  simp only [List.mem_cons, List.not_mem_nil, or_false] at hmem
  rcases hmem with hmem | hmem | hmem | hmem <;> rw [hmem] <;> rfl

/-- The digits of an escape denote one character. -/
theorem IsCode.unique {y : Char} (h : IsCode digits x) (h' : IsCode digits y) : x = y := by
  obtain ⟨i, j, k, l, hmap, hx⟩ := h
  obtain ⟨i', j', k', l', hmap', hy⟩ := h'
  rw [hmap] at hmap'
  cases hmap'
  exact Char.toNat_inj.mp (hx.trans hy.symm)

theorem ne_underscore_of_isHexDigit {c : Char} (h : isHexDigit c = true) : c ≠ '_' := by
  rintro rfl
  exact absurd h (by decide)

/-- Characters that begin no escape are put down as they are. -/
theorem Unescapes.append {front : List Char} (hfront : ∀ c ∈ front, c ≠ '_') (h : Unescapes cs out) :
    Unescapes (front ++ cs) (front ++ out) := by
  induction front with
  | nil => exact h
  | cons c front ih =>
      rw [List.forall_mem_cons] at hfront
      refine .other ?_ (ih hfront.2)
      intro digits x rest _ heq
      exact hfront.1 (List.cons_eq_cons.mp heq).1

/-- There is one way to replace the escapes of a text. -/
theorem Unescapes.unique {out' : List Char} (h : Unescapes cs out) (h' : Unescapes cs out') :
    out = out' := by
  induction h generalizing out' with
  | nil =>
      cases h'
      rfl
  | @escape digits rest out x hcode _ ih =>
      generalize hcs : '_' :: 'x' :: (digits ++ '_' :: rest) = cs at h'
      cases h' with
      | nil => cases hcs
      | @escape digits' rest' out' x' hcode' hrest' =>
          -- both escapes have four digits, so they are the same one
          injection hcs with _ hcs
          injection hcs with _ hcs
          obtain ⟨rfl, htail⟩ := List.append_inj hcs (hcode.length.trans hcode'.length.symm)
          injection htail with _ htail
          subst htail
          rw [hcode.unique hcode', ih hrest']
      | other hnone _ => exact absurd hcs.symm (hnone _ _ _ hcode)
  | @other c cs out hnone _ ih =>
      generalize hcs : c :: cs = ds at h'
      cases h' with
      | nil => cases hcs
      | escape hcode' _ => exact absurd hcs (hnone _ _ _ hcode')
      | other _ hrest' =>
          cases hcs
          rw [ih hrest']

/-! ## What the reader looks at -/

theorem hex?_of_map {i j k l : Nat} (h : digits.map hexValue? = [some i, some j, some k, some l]) :
    hex? digits = some (4096 * i + 256 * j + 16 * k + l) := by
  have hfold : hex? digits
      = (digits.map hexValue?).foldlM (fun n v => v.map fun d => n * 16 + d) 0 := by
    rw [hex?, valueInBase?, List.foldlM_map]
  rw [hfold, h]
  simp only [List.foldlM_cons, List.foldlM_nil, Option.map_some, Option.bind_eq_bind,
    Option.bind_some, Option.pure_def, Option.some.injEq]
  omega

theorem scalar?_eq_some_iff {n : Nat} : scalar? n = some x ↔ x.toNat = n := by
  unfold scalar?
  constructor
  · intro h
    split at h
    · next hvalid =>
      cases h
      rw [Char.ofNat, dif_pos hvalid]
      rfl
    · cases h
  · rintro rfl
    have hvalid : x.toNat.isValidChar := x.valid
    rw [if_pos hvalid, Char.ofNat_toNat]

/-- Four digits are the code of a character if the character has the number that they denote. -/
theorem isCode_iff (hlength : digits.length = 4) (hdigits : ∀ c ∈ digits, isHexDigit c = true) :
    IsCode digits x ↔ (hex? digits).bind scalar? = some x := by
  have hvalues : ∃ i j k l, digits.map hexValue? = [some i, some j, some k, some l] := by
    match digits, hlength with
    | [a, b, c, d], _ =>
      simp only [List.forall_mem_cons, List.not_mem_nil, false_implies, implies_true, and_true] at hdigits
      obtain ⟨i, hi⟩ := Option.isSome_iff_exists.mp hdigits.1
      obtain ⟨j, hj⟩ := Option.isSome_iff_exists.mp hdigits.2.1
      obtain ⟨k, hk⟩ := Option.isSome_iff_exists.mp hdigits.2.2.1
      obtain ⟨l, hl⟩ := Option.isSome_iff_exists.mp hdigits.2.2.2
      exact ⟨i, j, k, l, by simp [hi, hj, hk, hl]⟩
  obtain ⟨i, j, k, l, hmap⟩ := hvalues
  rw [hex?_of_map hmap, Option.bind_some, scalar?_eq_some_iff]
  constructor
  · rintro ⟨i', j', k', l', hmap', hx⟩
    rw [hmap] at hmap'
    cases hmap'
    exact hx
  · intro hx
    exact ⟨i, j, k, l, hmap, hx⟩

theorem isHexDigit_of_mem_leadingHex {c : Char} (h : c ∈ leadingHex cs) : isHexDigit c = true :=
  List.mem_takeWhile_imp h

/-- The digits that are taken, and what is looked at after them, are the text. -/
theorem leadingHex_append_drop (cs : List Char) :
    leadingHex cs ++ cs.drop (leadingHex cs).length = cs := by
  have hprefix : leadingHex cs <+: cs := (List.takeWhile_prefix _).trans (List.take_prefix _ _)
  exact List.prefix_iff_eq_append.mp hprefix

/-- Where a text goes on with four digits and no more are looked at, these are taken. -/
theorem leadingHex_append (hlength : digits.length = 4) (hdigits : ∀ c ∈ digits, isHexDigit c = true)
    (rest : List Char) : leadingHex (digits ++ rest) = digits := by
  have htake : (digits ++ rest).take 4 = digits := by rw [← hlength, List.take_left]
  rw [leadingHex, htake, List.takeWhile_eq_self_iff]
  exact hdigits

/-- **The reader finds an escape where there is one.** -/
theorem escapedChar?_eq_some_iff :
    escapedChar? (leadingHex cs) (cs.drop (leadingHex cs).length) = some x
      ↔ ∃ digits rest, IsCode digits x ∧ cs = digits ++ '_' :: rest := by
  constructor
  · intro h
    unfold escapedChar? at h
    split at h
    · next hfound =>
      obtain ⟨rest, hrest⟩ := List.head?_eq_some_iff.mp hfound.2
      refine ⟨leadingHex cs, rest, ?_, ?_⟩
      · exact (isCode_iff hfound.1 fun _ => isHexDigit_of_mem_leadingHex).mpr h
      · rw [← hrest, leadingHex_append_drop]
    · cases h
  · rintro ⟨digits, rest, hcode, rfl⟩
    have hdigits : ∀ c ∈ digits, isHexDigit c = true := fun _ => hcode.isHexDigit
    have hleading := leadingHex_append hcode.length hdigits ('_' :: rest)
    rw [hleading, List.drop_left, escapedChar?, if_pos ⟨hcode.length, rfl⟩,
      ← isCode_iff hcode.length hdigits]
    exact hcode

/-- What the reader puts down has the escapes replaced from left to right. -/
theorem unescapes_unescape (cs : List Char) : Unescapes cs (unescape cs) := by
  -- by induction on what the reader goes on with
  fun_induction unescape cs with
  | case1 => exact .nil
  | case2 rest digits after x hfound ih =>
      obtain ⟨code, tail, hcode, rfl⟩ := escapedChar?_eq_some_iff.mp hfound
      have hafter : after = '_' :: tail := by
        have hleading := leadingHex_append hcode.length (fun _ => hcode.isHexDigit) ('_' :: tail)
        show List.drop (leadingHex (code ++ '_' :: tail)).length (code ++ '_' :: tail) = _
        rw [hleading, List.drop_left]
      rw [hafter] at ih ⊢
      exact .escape hcode ih
  | case3 rest digits after hnone ih =>
      have hrest : rest = digits ++ after := (leadingHex_append_drop rest).symm
      have hfirst : ∀ code y tail, IsCode code y →
          '_' :: 'x' :: rest ≠ '_' :: 'x' :: (code ++ '_' :: tail) := by
        intro code y tail hcode heq
        injection heq with _ heq
        injection heq with _ heq
        have hfound := escapedChar?_eq_some_iff.mpr ⟨code, tail, hcode, heq⟩
        rw [hnone] at hfound
        cases hfound
      -- no escape begins at the `x` or at one of the digits
      have hinside : ∀ c ∈ 'x' :: digits, c ≠ '_' := by
        intro c hc
        rcases List.mem_cons.mp hc with rfl | hc
        · decide
        · exact ne_underscore_of_isHexDigit (isHexDigit_of_mem_leadingHex hc)
      have hverbatim := ih.append hinside
      rw [List.cons_append, ← hrest] at hverbatim
      exact .other hfirst hverbatim
  | case4 c rest hnone ih =>
      refine .other ?_ ih
      intro code y tail _ heq
      injection heq with hc heq
      exact hnone _ hc heq

/--
**Unescaping is replacing the escapes from left to right**: what it gives has been got that way, and
nothing else is. So nothing that only looks like an escape hides one that begins behind it.
-/
theorem unescapes_iff (s : String) (out : List Char) :
    Unescapes s.toList out ↔ (unescapeText s).toList = out := by
  have hgiven := unescapes_unescape s.toList
  rw [unescapeText, String.toList_ofList]
  constructor
  · intro h
    exact hgiven.unique h
  · rintro rfl
    exact hgiven

/-- The first four digits are half of a pair of codes; their underscore begins an escape. -/
example : unescapeText "_xD83D_x0041__x000" = "_xD83DA_x000" := by decide +kernel

end Sheetwise.Text
