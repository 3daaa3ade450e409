import Sheetwise.Proofs.Areas
import Sheetwise.Proofs.Seeing
import Sheetwise.Proofs.Spelling

/-!
# Rows and candidates counted from a corner

Rows are numbered from one, columns and the rows of a rectangle from zero, and a candidate is a text that
is read, moved and written again. So there is an expression for each of them that takes the corner of an
area off. The expressions agree on where things are, and none takes anything from a smaller number as long
as nothing lies before the corner. What is moved stays as it is only where there is nothing to take off.
-/

namespace Sheetwise

/-! ## Columns -/

namespace SortedMap

variable {α : Type} {m m' : SortedMap Nat α} {offset : Nat}

/-- A map has the entries of another, whose keys are not below an offset, with the offset taken off. -/
def Shifted (offset : Nat) (m m' : SortedMap Nat α) : Prop :=
  (∀ e ∈ m.entries, offset ≤ e.1) ∧ m.entries.map (fun e => (e.1 - offset, e.2)) = m'.entries

theorem pairwise_shifted (h : ∀ e ∈ m.entries, offset ≤ e.1) :
    (m.entries.map fun e => (e.1 - offset, e.2)).Pairwise fun a b => a.1 < b.1 := by
  rw [List.pairwise_map]
  refine m.sorted.imp_of_mem fun {a b} ha hb hab => ?_
  have := h a ha
  have := h b hb
  show a.1 - offset < b.1 - offset
  omega

theorem exists_shifted (h : ∀ e ∈ m.entries, offset ≤ e.1) : ∃ m', Shifted offset m m' :=
  ⟨⟨_, pairwise_shifted h⟩, h, rfl⟩

theorem shifted_self_iff : Shifted offset m m ↔ ((∃ e, e ∈ m.entries) → offset = 0) := by
  constructor
  · intro h hsome
    obtain ⟨hle, hmap⟩ := h
    cases hentries : m.entries with
    | nil =>
        obtain ⟨e, he⟩ := hsome
        rw [hentries] at he
        exact absurd he List.not_mem_nil
    | cons e es =>
        -- the first key stays what it is
        rw [hentries] at hle hmap
        have hkey : e.1 - offset = e.1 := congrArg Prod.fst (List.cons.inj hmap).1
        have := hle e List.mem_cons_self
        omega
  · intro h
    cases hentries : m.entries with
    | nil =>
        unfold Shifted
        rw [hentries]
        exact ⟨List.forall_mem_nil _, rfl⟩
    | cons e es =>
        obtain rfl := h ⟨e, hentries ▸ List.mem_cons_self⟩
        exact ⟨fun e _ => Nat.zero_le _, List.map_id _⟩

end SortedMap

theorem View.shiftColumns_eq_ok {α : Type} {m m' : SortedMap Nat α} {offset : Nat} :
    shiftColumns m offset = .ok m' ↔ m.Shifted offset m' := by
  have hentry (e b : Nat × α) : (do return (← Word.sub e.1 offset, e.2) : Checked (Nat × α)) = .ok b
      ↔ offset ≤ e.1 ∧ (e.1 - offset, e.2) = b := by
    simp only [Checked.bind_eq_ok, Word.sub_eq_ok]
    constructor
    · rintro ⟨c, ⟨hle, rfl⟩, h⟩
      exact ⟨hle, Except.ok.inj h⟩
    · rintro ⟨hle, rfl⟩
      exact ⟨_, ⟨hle, rfl⟩, rfl⟩
  simp only [shiftColumns, Checked.bind_eq_ok, Checked.mapM_eq_ok_map_iff hentry]
  constructor
  · rintro ⟨es, ⟨hle, rfl⟩, h⟩
    obtain rfl := Except.ok.inj h
    exact ⟨hle, (SortedMap.entries_ofList (SortedMap.pairwise_shifted hle)).symm⟩
  · rintro ⟨hle, hmap⟩
    exact ⟨_, ⟨hle, hmap⟩, congrArg Except.ok m'.ofList_entries⟩

/-! ## Rows -/

/-- A row counts its number and its columns from the corner of an area, which it does not lie before. -/
structure Row.Moved (area : PrintArea) (row row' : Row) : Prop where
  number_ge : area.r1 ≤ row.number
  number : row'.number = row.number - area.r1 + 1
  cells : row.cells.Shifted area.c1 row'.cells
  links : Option.Rel (SortedMap.Shifted area.c1) row.links row'.links

namespace View

variable {area : PrintArea} {row row' : Row}

theorem mapM_shiftColumns_eq_ok {α : Type} {x y : Option (SortedMap Nat α)} {offset : Nat} :
    x.mapM (fun m => shiftColumns m offset) = .ok y ↔ Option.Rel (SortedMap.Shifted offset) x y := by
  cases x with
  | none =>
      constructor
      · intro h
        cases h
        exact .none
      · intro h
        cases h
        rfl
  | some m =>
      rw [Option.mapM_some, Checked.map_eq_ok]
      constructor
      · rintro ⟨m', hm', rfl⟩
        exact .some (shiftColumns_eq_ok.mp hm')
      · intro h
        cases h with
        | some hshifted => exact ⟨_, shiftColumns_eq_ok.mpr hshifted, rfl⟩

theorem shiftRow_eq_ok :
    shiftRow area row = .ok row' ↔ row.Moved area row' ∧ row'.number ≤ Word.max := by
  simp only [shiftRow, Checked.bind_eq_ok, Word.sub_eq_ok, Word.add_eq_ok, shiftColumns_eq_ok,
    mapM_shiftColumns_eq_ok]
  constructor
  · rintro ⟨_, ⟨hge, rfl⟩, _, ⟨rfl, hmax⟩, cells, hcells, links, hlinks, h⟩
    obtain rfl := Except.ok.inj h
    exact ⟨⟨hge, rfl, hcells, hlinks⟩, hmax⟩
  · intro h
    obtain ⟨⟨hge, hnumber, hcells, hlinks⟩, hmax⟩ := h
    refine ⟨_, ⟨hge, rfl⟩, row'.number, ⟨hnumber.symm, hmax⟩, _, hcells, _, hlinks, rfl⟩

/-- A row that lies in an area after which there is a row can be moved. -/
theorem exists_shiftRow (hrow : area.containsRow row.number = true)
    (hcols : row.withinColumns area.c1 area.c2 = true) (hmax : area.r2 < Word.max) :
    ∃ row', shiftRow area row = .ok row' := by
  have hnumber : area.r1 ≤ row.number ∧ row.number ≤ area.r2 := by
    simpa [PrintArea.containsRow] using hrow
  obtain ⟨hcells, hlinks⟩ := Row.withinColumns_iff.mp hcols
  obtain ⟨cells, hcells'⟩ := SortedMap.exists_shifted fun e he => (hcells e he).1
  have hlinks' : ∃ links, Option.Rel (SortedMap.Shifted area.c1) row.links links := by
    cases hrowLinks : row.links with
    | none => exact ⟨none, .none⟩
    | some m =>
        obtain ⟨m', hm'⟩ := SortedMap.exists_shifted fun e he => (hlinks m hrowLinks e he).1
        exact ⟨some m', .some hm'⟩
  obtain ⟨links, hlinks'⟩ := hlinks'
  refine ⟨⟨row.number - area.r1 + 1, cells, links⟩, shiftRow_eq_ok.mpr ⟨⟨?_, rfl, hcells', hlinks'⟩, ?_⟩⟩
  · exact hnumber.1
  · show row.number - area.r1 + 1 ≤ Word.max
    omega

/-- Moving leaves a row as it is if the area begins in the first row, and in the first column too if
there is something in the row. -/
theorem shiftRow_self_iff (hpos : 1 ≤ row.number) (hmax : row.number ≤ Word.max) :
    shiftRow area row = .ok row ↔ area.r1 = 1 ∧ (row.Filled → area.c1 = 0) := by
  have hlinks : Option.Rel (SortedMap.Shifted area.c1) row.links row.links
      ↔ ((∃ e, e ∈ row.linkMap.entries) → area.c1 = 0) := by
    unfold Row.linkMap
    cases row.links with
    | none =>
        refine iff_of_true .none ?_
        intro hsome
        obtain ⟨e, he⟩ := hsome
        exact absurd he List.not_mem_nil
    | some m =>
        rw [Option.getD_some, ← SortedMap.shifted_self_iff]
        constructor
        · intro h
          cases h with
          | some hshifted => exact hshifted
        · exact .some
  rw [shiftRow_eq_ok, Row.Filled, or_imp, ← hlinks, ← SortedMap.shifted_self_iff]
  constructor
  · rintro ⟨⟨hge, hnumber, hcells, hlinks⟩, -⟩
    exact ⟨by omega, hcells, hlinks⟩
  · rintro ⟨hfirst, hcells, hlinks⟩
    exact ⟨⟨by omega, by omega, hcells, hlinks⟩, hmax⟩

end View

/-! ## Candidates -/

namespace Rect

variable {area : PrintArea} {b b' : Rect}

/-- A rectangle counts its rows and columns from the corner of an area, which it does not lie before. -/
structure Moved (area : PrintArea) (b b' : Rect) : Prop where
  row_ge : area.r1 - 1 ≤ b.r1
  col_ge : area.c1 ≤ b.c1
  r1 : b'.r1 = b.r1 - (area.r1 - 1)
  c1 : b'.c1 = b.c1 - area.c1
  r2 : b'.r2 = b.r2 - (area.r1 - 1)
  c2 : b'.c2 = b.c2 - area.c1

theorem Moved.onSheet (h : b.Moved area b') (hb : b.OnSheet) : b'.OnSheet := by
  obtain ⟨-, -, -, -, hr2, hc2⟩ := h
  obtain ⟨hrows, hcols⟩ := hb
  refine ⟨?_, ?_⟩
  · show b'.r2 < maxRows
    omega
  · show b'.c2 < maxColumns
    omega

/-- A cell of the area, counted from its corner, lies in the moved rectangle if it lay in the other. -/
theorem Moved.contains_eq (h : b.Moved area b') (hfirst : 1 ≤ area.r1) {row col : Nat}
    (hcell : area.Has row col) :
    b'.contains (row - area.r1) (col - area.c1) = b.contains (row - 1) col := by
  obtain ⟨hrow, hcol, hr1, hc1, hr2, hc2⟩ := h
  obtain ⟨hrowGe, -, hcolGe, -⟩ := hcell
  have := b.rows_le
  have := b.cols_le
  rw [Bool.eq_iff_iff, contains_iff, contains_iff, hr1, hc1, hr2, hc2]
  omega

theorem moved_self_iff : b.Moved area b ↔ area.r1 ≤ 1 ∧ area.c1 = 0 := by
  constructor
  · intro h
    have := h.row_ge
    have := h.col_ge
    have := h.r1
    have := h.c1
    omega
  · intro h
    constructor <;> omega

end Rect

namespace View

variable {area : PrintArea} {s s' : String} {b : Rect}

theorem shiftCandidate_eq_ok (hs : Reference.rect? s = some b) :
    shiftCandidate area s = .ok s' ↔ ∃ b', b.Moved area b' ∧ b'.text = s' := by
  have hrows := b.rows_le
  have hcols := b.cols_le
  unfold shiftCandidate
  simp only [hs, Checked.bind_eq_ok, Word.sub_eq_ok]
  constructor
  · rintro ⟨_, ⟨hr1, rfl⟩, _, ⟨hc1, rfl⟩, _, ⟨-, rfl⟩, _, ⟨-, rfl⟩, h⟩
    refine ⟨_, ⟨hr1, hc1, ?_, ?_, ?_, ?_⟩, Except.ok.inj h⟩ <;> simp only [Rect.ofCorners] <;> omega
  · rintro ⟨b', ⟨hr1, hc1, hr1', hc1', hr2', hc2'⟩, rfl⟩
    have heq : Rect.ofCorners (b.r1 - (area.r1 - 1)) (b.c1 - area.c1) (b.r2 - (area.r1 - 1))
        (b.c2 - area.c1) = b' := by
      apply Rect.ext <;> simp only [Rect.ofCorners] <;> omega
    refine ⟨_, ⟨hr1, rfl⟩, _, ⟨hc1, rfl⟩, _, ⟨by omega, rfl⟩, _, ⟨by omega, rfl⟩, ?_⟩
    rw [heq]
    rfl

/--
A candidate is replaced by the text of its rectangle, moved. The cells of the area, which are numbered
from one here and from zero in a rectangle, lie in it after if they lay in it before.
-/
def CandidateMoved (area : PrintArea) (s s' : String) : Prop :=
  ∃ b b', Reference.rect? s = some b ∧ Reference.rect? s' = some b' ∧ s' = b'.text
    ∧ b.Moved area b'
    ∧ ∀ row col, area.Has row col →
      b'.contains (row - area.r1) (col - area.c1) = b.contains (row - 1) col

theorem exists_rect_of_contained (h : containsCandidate area s = true) :
    ∃ b, Reference.rect? s = some b ∧ area.r1 - 1 ≤ b.r1 ∧ area.c1 ≤ b.c1 := by
  unfold containsCandidate at h
  cases hs : Reference.rect? s with
  | none =>
      rw [hs] at h
      cases h
  | some b =>
      rw [hs] at h
      have hfirst := PrintArea.containsRect_iff.mp h b.r1 b.c1
        (Rect.contains_iff.mpr ⟨Nat.le_refl _, b.rows_le, Nat.le_refl _, b.cols_le⟩)
      have := hfirst.row_ge
      exact ⟨b, rfl, by omega, hfirst.col_ge⟩

/-- A candidate that lies in an area can be moved. -/
theorem exists_shiftCandidate (h : containsCandidate area s = true) :
    ∃ s', shiftCandidate area s = .ok s' := by
  obtain ⟨b, hs, hrow, hcol⟩ := exists_rect_of_contained h
  have hrows := b.rows_le
  have hcols := b.cols_le
  let b' : Rect := ⟨b.r1 - (area.r1 - 1), b.c1 - area.c1, b.r2 - (area.r1 - 1), b.c2 - area.c1,
    by omega, by omega⟩
  exact ⟨b'.text, (shiftCandidate_eq_ok hs).mpr ⟨b', ⟨hrow, hcol, rfl, rfl, rfl, rfl⟩, rfl⟩⟩

theorem candidateMoved_of_shiftCandidate (hfirst : 1 ≤ area.r1)
    (hs : containsCandidate area s = true) (h : shiftCandidate area s = .ok s') :
    CandidateMoved area s s' := by
  obtain ⟨b, hb, -, -⟩ := exists_rect_of_contained hs
  obtain ⟨b', hmoved, rfl⟩ := (shiftCandidate_eq_ok hb).mp h
  have hread := Reference.rect?_text (hmoved.onSheet (Reference.onSheet_of_rect? hb))
  exact ⟨b, b', hb, hread, rfl, hmoved, fun row col hcell => hmoved.contains_eq hfirst hcell⟩

/-- Moving leaves a written rectangle as it is if the area begins in the first row and column. -/
theorem shiftCandidate_self_iff (hb : b.OnSheet) :
    shiftCandidate area b.text = .ok b.text ↔ area.r1 ≤ 1 ∧ area.c1 = 0 := by
  rw [shiftCandidate_eq_ok (Reference.rect?_text hb), ← Rect.moved_self_iff (b := b)]
  constructor
  · rintro ⟨b', hmoved, htext⟩
    rwa [Reference.eq_of_text_eq (hmoved.onSheet hb) hb htext] at hmoved
  · exact fun hmoved => ⟨b, hmoved, rfl⟩

end View

end Sheetwise
