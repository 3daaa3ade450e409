import Sheetwise.Proofs.Spelling

/-!
# The two ends of a range

A dollar sign marks the part of a reference that it stands in front of, a column or a row. The reader of
addresses holds to this: it drops one sign before the letters and one before the digits, and any other
one makes the text no address. The reader of ranges has to find out first whether an end is a column, a
row or a cell, and to do so it passes over all dollar signs. For a cell it then goes back to the text;
for a column and a row it does not.

So what is taken for an end is a word of one grammar or of another, and the two differ by the dollar
signs behind the first character of a column or a row. What is said here about both ends of a range is
that this is the only difference.
-/

namespace Sheetwise

namespace Text

variable {cs : List Char} {c : Char}

theorem mem_dropWhile_of_not {p : Char → Bool} (hc : p c = false) (h : c ∈ cs) :
    c ∈ cs.dropWhile p := by
  rw [← List.takeWhile_append_dropWhile (p := p) (l := cs)] at h
  rcases List.mem_append.mp h with h | h
  · have hblank := List.mem_takeWhile_imp h
    rw [hc] at hblank
    cases hblank
  · exact h

theorem mem_trimChars (hc : isBlank c = false) (h : c ∈ cs) : c ∈ trimChars cs := by
  have hstart := mem_dropWhile_of_not hc h
  have hend := mem_dropWhile_of_not hc (List.mem_reverse.mpr hstart)
  exact List.mem_reverse.mpr hend

end Text

namespace Reference

open Address (dollar)

namespace Endpoint

variable {e : Endpoint} {cs : List Char}

theorem Taken.mem (h : e.Taken cs) {c : Char} (hc : c ∈ cs) : c = '$' ∨ Text.isPlain c = true := by
  have hbare (hne : c ≠ '$') : c ∈ unmarked cs := List.mem_filter.mpr ⟨hc, decide_eq_true hne⟩
  by_cases hdollar : c = '$'
  · exact Or.inl hdollar
  · refine Or.inr ?_
    cases e with
    | column col => exact (Column.Names.toIsName h).isPlain (hbare hdollar)
    | row row => exact (Row.Numbers.toIsNumber h).isPlain (hbare hdollar)
    | cell a =>
        cases h with
        | mk hls hds =>
            rcases List.mem_append.mp hc with hc | hc <;> rcases List.mem_append.mp hc with hc | hc
            · exact absurd (Address.eq_of_mem_dollar hc) hdollar
            · exact hls.isPlain hc
            · exact absurd (Address.eq_of_mem_dollar hc) hdollar
            · exact hds.isPlain hc

/-- Where an end is read there is no colon, not even among the blanks around it. -/
theorem Taken.colon_notMem (h : e.Taken (Text.trimChars cs)) : ':' ∉ cs := by
  intro hcolon
  exact Address.colon_notMem_of_marked (fun _ => h.mem) (Text.mem_trimChars (by decide) hcolon)

end Endpoint

/-- Text that is one part when it is cut at the colons is this part. -/
theorem eq_of_splitOn_eq_singleton {cs ds : List Char} (h : cs.splitOn ':' = [ds]) : cs = ds := by
  have hjoin : [':'].intercalate (cs.splitOn ':') = cs := List.intercalate_splitOn ':'
  rw [h] at hjoin
  simpa [List.intercalate] using hjoin.symm

/-- **Text with a colon is read as two ends.** A second colon leaves no way of reading it. -/
theorem body?_eq_some_iff {first second : List Char} {b : Rect} :
    body? (first ++ ':' :: second) = some b ↔ ∃ e e' : Endpoint, e.Taken (Text.trimChars first) ∧
      e'.Taken (Text.trimChars second) ∧ e.span? e' = some b := by
  have hne : first ++ ':' :: second ≠ [] :=
    List.append_ne_nil_of_right_ne_nil _ (List.cons_ne_nil _ _)
  rw [body?, if_neg hne]
  constructor
  · intro h
    -- either side of the colon is at least one part
    rw [List.splitOn_append_cons_self] at h
    obtain ⟨p, ps, hps⟩ := List.exists_cons_of_ne_nil (List.splitOn_ne_nil ':' first)
    obtain ⟨q, qs, hqs⟩ := List.exists_cons_of_ne_nil (List.splitOn_ne_nil ':' second)
    rw [hps, hqs, List.cons_append] at h
    split at h
    · next hparts => simp at hparts
    · next cs cs' hparts =>
      obtain ⟨rfl, hrest⟩ := List.cons.inj hparts
      rcases List.append_eq_singleton_iff.mp hrest with ⟨rfl, hlast⟩ | ⟨-, hnil⟩
      · obtain rfl := eq_of_splitOn_eq_singleton hps
        obtain rfl := eq_of_splitOn_eq_singleton (hqs.trans hlast)
        simp only [Option.bind_eq_bind, Option.bind_eq_some_iff] at h
        obtain ⟨e, he, e', he', hspan⟩ := h
        exact ⟨e, e', Endpoint.ofChars?_eq_some_iff.mp he, Endpoint.ofChars?_eq_some_iff.mp he', hspan⟩
      · cases hnil
    · cases h
  · rintro ⟨e, e', he, he', hspan⟩
    rw [List.splitOn_append_cons_self_of_not_mem he.colon_notMem,
      List.splitOn_eq_singleton he'.colon_notMem]
    dsimp only
    rw [Endpoint.ofChars?_eq_some_iff.mpr he, Endpoint.ofChars?_eq_some_iff.mpr he']
    exact hspan

/-! ## Where the dollar signs stand -/

/--
The end of a range as it ought to be: a column of one to three letters, the number of a row, or a cell of
both, with one dollar sign at most in front of each part and none elsewhere.
-/
inductive Marked : List Char → Prop where
  | column {m : Bool} {ls : List Char} : Column.IsName ls → Marked (dollar m ++ ls)
  | row {m : Bool} {ds : List Char} : Row.IsNumber ds → Marked (dollar m ++ ds)
  | cell {m m' : Bool} {ls ds : List Char} : Column.IsName ls → Row.IsNumber ds →
      Marked (dollar m ++ ls ++ (dollar m' ++ ds))

/-- A dollar sign behind the first character of a column or of a row. -/
def Misplaced (cs : List Char) : Prop :=
  '$' ∈ cs.tail ∧ ((Endpoint.unmarked cs).all Text.isLetter = true
    ∨ (Endpoint.unmarked cs).all Text.isDigit = true)

instance : DecidablePred Misplaced := fun _ => inferInstanceAs (Decidable (_ ∧ _))

namespace Endpoint

variable {e : Endpoint} {cs : List Char}

theorem exists_dollar_unmarked (h : '$' ∉ cs.tail) : ∃ m, cs = dollar m ++ unmarked cs := by
  cases cs with
  | nil => exact ⟨false, rfl⟩
  | cons c cs =>
      have h : '$' ∉ cs := h
      by_cases hc : c = '$'
      · refine ⟨true, ?_⟩
        have hbare : unmarked (c :: cs) = unmarked cs := List.filter_cons_of_neg (by simp [hc])
        rw [hbare, unmarked_of_notMem h, hc]
        rfl
      · refine ⟨false, (unmarked_of_notMem fun hmem => ?_).symm⟩
        rcases List.mem_cons.mp hmem with hmem | hmem
        · exact hc hmem.symm
        · exact h hmem

theorem notMem_tail_dollar (m : Bool) (h : ∀ c ∈ cs, Text.isPlain c = true) :
    '$' ∉ (dollar m ++ cs).tail := by
  intro hmem
  have hcs : '$' ∈ cs := by
    cases m with
    | true => exact hmem
    | false => exact List.mem_of_mem_tail hmem
  exact Text.ne_dollar_of_isPlain (h '$' hcs) rfl

theorem not_misplaced_of_marked (h : Marked cs) : ¬ Misplaced cs := by
  rintro ⟨hdollar, hshape⟩
  cases h with
  | column hls => exact notMem_tail_dollar _ (fun _ => hls.isPlain) hdollar
  | row hds => exact notMem_tail_dollar _ (fun _ => hds.isPlain) hdollar
  | cell hls hds =>
      rw [unmarked_cell hls hds] at hshape
      rcases hshape with hshape | hshape
      · exact not_all_isLetter hds (List.subset_append_right _ _) hshape
      · exact not_all_isDigit hls (List.subset_append_left _ _) hshape

/-- **What is taken for an end is one as it ought to be, but for misplaced dollar signs.** -/
theorem Taken.marked_iff (h : e.Taken cs) : Marked cs ↔ ¬ Misplaced cs := by
  constructor
  · exact not_misplaced_of_marked
  · intro hplaced
    cases e with
    | cell a =>
        cases h with
        | mk hls hds => exact .cell hls.toIsName hds.toIsNumber
    | column col =>
        have hnames : Column.Names (unmarked cs) col := h
        obtain ⟨m, hcs⟩ := exists_dollar_unmarked fun hmem =>
          hplaced ⟨hmem, Or.inl (List.all_eq_true.mpr hnames.isLetter)⟩
        rw [hcs]
        exact .column hnames.toIsName
    | row row =>
        have hnumbers : Row.Numbers (unmarked cs) row := h
        obtain ⟨m, hcs⟩ := exists_dollar_unmarked fun hmem =>
          hplaced ⟨hmem, Or.inr (List.all_eq_true.mpr hnumbers.isDigit)⟩
        rw [hcs]
        exact .row hnumbers.toIsNumber

end Endpoint

/-! ## References with two ends -/

/-- What is left of a reference when the name of a sheet is taken off. -/
def body (s : String) : List Char :=
  Text.trimChars (splitSheet (Text.trimChars s.toList)).2

/--
**Both ends of a range are words of one grammar, but for misplaced dollar signs.** A reference with a
colon is read if and only if there is an end on either side of it, both of one kind. When it is read, an
end is of the form that it ought to have just if it has no dollar sign behind the first character of a
column or of a row.
-/
theorem ends_marked_iff {s : String} {first second : List Char}
    (h : body s = first ++ ':' :: second) :
    (∀ b, rect? s = some b ↔ ∃ e e' : Endpoint, e.Taken (Text.trimChars first) ∧
      e'.Taken (Text.trimChars second) ∧ e.span? e' = some b)
    ∧ ∀ b, rect? s = some b →
      (Marked (Text.trimChars first) ↔ ¬ Misplaced (Text.trimChars first))
      ∧ (Marked (Text.trimChars second) ↔ ¬ Misplaced (Text.trimChars second)) := by
  have hrect : rect? s = body? (first ++ ':' :: second) := by
    rw [← h]
    rfl
  rw [hrect]
  constructor
  · intro b
    exact body?_eq_some_iff
  · intro b hb
    obtain ⟨e, e', he, he', -⟩ := body?_eq_some_iff.mp hb
    exact ⟨he.marked_iff, he'.marked_iff⟩

/-- Three columns of a sheet with a colon in its name, and both ends as they ought to be. -/
theorem ends_marked_iff_columns :
    rect? "'A:B'! $a : c" = some ⟨0, 0, 1048575, 2, by decide, by decide⟩
      ∧ Marked ['$', 'a'] ∧ Marked ['c'] := by
  have hbody : body "'A:B'! $a : c" = ['$', 'a', ' '] ++ ':' :: [' ', 'c'] := by decide +kernel
  have hread : rect? "'A:B'! $a : c" = some ⟨0, 0, 1048575, 2, by decide, by decide⟩ := by
    decide +kernel
  have hmarks := (ends_marked_iff hbody).2 _ hread
  exact ⟨hread, hmarks.1.mpr (by decide +kernel), hmarks.2.mpr (by decide +kernel)⟩

/-- The dollar sign behind a column is passed over, and the two columns are read. -/
theorem column_marked_behind :
    body "A$:B" = ['A', '$'] ++ ':' :: ['B']
      ∧ rect? "A$:B" = some ⟨0, 0, 1048575, 1, by decide, by decide⟩
      ∧ ¬ Marked (Text.trimChars ['A', '$']) := by
  have hread : rect? "A$:B" = some ⟨0, 0, 1048575, 1, by decide, by decide⟩ := by decide +kernel
  refine ⟨by decide +kernel, hread, fun hmarked => ?_⟩
  exact Endpoint.not_misplaced_of_marked hmarked (by decide +kernel)

end Reference

end Sheetwise
