import Sheetwise.Proofs.Listing

/-!
# References and what they denote

A rectangle of a sheet has many references: with corners in one order or the other, in letters of either
case, with dollar signs here and there, with the name of any sheet in front. They all denote it, and the
one that is written for it is among them. So a text that is read at all denotes a rectangle of a sheet,
and to write that rectangle is to bring the text to a normal form.
-/

namespace Sheetwise.Reference

/-- What is put in front of a range: the name of a sheet in apostrophes, or nothing. -/
def sheetPrefix : Option String → List Char
  | none => []
  | some name => quoteName name.toList ++ ['!']

/-- **The name of a sheet makes no difference**, whatever it is made of, and neither does the spelling. -/
theorem range?_sheetPrefix {b : Rect} {cs : List Char} (h : b.Spelled cs) (hb : b.OnSheet)
    (name : Option String) : range? (sheetPrefix name ++ cs) = some b := by
  cases name with
  | none => exact range?_of_spelled h hb
  | some name =>
      rw [sheetPrefix, List.append_assoc, List.singleton_append, range?, trimChars_named h,
        splitSheet_named h]
      dsimp only
      rw [h.trimChars, body?_of_spelled h hb]

/--
**References are read soundly, and in all their spellings.** What is read has its corners in order, lies
on a sheet and is read again from what is written for it. And every rectangle of a sheet is read from
each of its references.
-/
theorem rect?_canonical :
    (∀ (s : String) (b : Rect), rect? s = some b →
      b.r1 ≤ b.r2 ∧ b.r2 < maxRows ∧ b.c1 ≤ b.c2 ∧ b.c2 < maxColumns ∧ rect? b.text = some b)
    ∧ ∀ (b : Rect) (name : Option String) (cs : List Char), b.r2 < maxRows → b.c2 < maxColumns →
      b.Spelled cs → rect? (String.ofList (sheetPrefix name ++ cs)) = some b := by
  constructor
  · intro s b h
    have hb := onSheet_of_rect? h
    exact ⟨b.rows_le, hb.1, b.cols_le, hb.2, rect?_text hb⟩
  · intro b name cs hrows hcols h
    rw [rect?, String.toList_ofList]
    exact range?_sheetPrefix h ⟨hrows, hcols⟩ name

/-- The upper right and the lower left corner, on a sheet whose name looks like a list. -/
theorem rect?_canonical_hostile :
    rect? "'It''s, A1!'!$d2:b$10" = some ⟨1, 1, 9, 3, by decide, by decide⟩
      ∧ rect? "B2:D10" = some ⟨1, 1, 9, 3, by decide, by decide⟩ := by
  have hupper : Address.Spelled ⟨1, 3⟩ ['$', 'd', '2'] :=
    ⟨['$', 'd'], ['2'], ⟨true, ['d'], by simp [Column.Spells, Column.letters]; decide, rfl⟩,
      ⟨false, rfl⟩, rfl⟩
  have hlower : Address.Spelled ⟨9, 1⟩ ['b', '$', '1', '0'] :=
    ⟨['b'], ['$', '1', '0'], ⟨false, ['b'], by simp [Column.Spells, Column.letters]; decide, rfl⟩,
      ⟨true, rfl⟩, rfl⟩
  have hread := rect?_canonical.2 ⟨1, 1, 9, 3, by decide, by decide⟩ (some "It's, A1!") _ (by decide)
    (by decide) (.corners (Or.inl ⟨rfl, rfl⟩) (Or.inr ⟨rfl, rfl⟩) hupper hlower)
  have htext : Rect.text ⟨1, 1, 9, 3, by decide, by decide⟩ = "B2:D10" := by decide +kernel
  have hagain := (rect?_canonical.1 _ _ hread).2.2.2.2
  rw [htext] at hagain
  exact ⟨hread, hagain⟩

end Sheetwise.Reference
