import Sheetwise.Numbering
import Sheetwise.Proofs.Rows

/-!
# Rows as a view of a grid

A grid that is written as rows can be read off them again: what the rows hold, row by row and each in the
order of its columns, is what the maps of the grid hold. The numbers of the rows come from two maps, of
which each may have rows that the other has not, so it is not the maps that make a row but the number:
it is listed once, and whatever either map has in that row goes into it. A number is only listed if
one of the maps has something there, which is why no row is empty.
-/

namespace Sheetwise

namespace Row

/-- What stands in a place of a numbered row, by its address in a grid. -/
def located {α : Type} (e : Nat × Nat × α) : Address × α := (⟨e.1 - 1, e.2.1⟩, e.2.2)

/-- Some rows show a grid, with its links or without them. -/
structure Shows (rows : List Row) (g : Grid) (includeLinks : Bool) : Prop where
  /-- The numbers of the rows increase. -/
  increasing : (rows.map number).Pairwise (· < ·)
  /-- Rows are numbered from one. -/
  one_le : ∀ row ∈ rows, 1 ≤ row.number
  /-- Every row has a cell or a link. -/
  filled : ∀ row ∈ rows, row.Filled
  /-- The cells of the rows are those of the grid. -/
  cells_eq : (cellsOf rows).map located = g.cells.entries
  /-- The links of the rows are those of the grid, if they are asked for. -/
  links_eq : (linksOf rows).map located = if includeLinks then g.links.entries else []
  /-- A link has its row, whether there is a value in its cell or not. -/
  linked : includeLinks = true → ∀ a target, g.links.get? a = some target →
    ∃ row ∈ rows, row.number = a.row + 1
      ∧ ∃ links, row.links = some links ∧ links.get? a.col = some target
  /-- Without links there are no link maps. -/
  unlinked : includeLinks = false → ∀ row ∈ rows, row.links = none
  /-- No link map is empty. -/
  trim : ∀ row ∈ rows, row.Trim

theorem located_numbered {α : Type} (entries : List (Address × α)) :
    (entries.map fun e => (e.1.row + 1, e.1.col, e.2)).map located = entries := by
  rw [List.map_map]
  exact List.map_id _

end Row

namespace Grid

variable {g : Grid} {includeLinks : Bool}

theorem mem_rowNumbers {r : Nat} : r ∈ (g.rowNumbers includeLinks).keys
    ↔ (∃ a ∈ g.cells.keys, a.row = r) ∨ includeLinks = true ∧ ∃ a ∈ g.links.keys, a.row = r := by
  rw [rowNumbers, SortedSet.mem_keys_ofList, List.mem_append, List.mem_map]
  refine or_congr Iff.rfl ?_
  cases includeLinks with
  | false => exact iff_of_false List.not_mem_nil fun h => Bool.noConfusion h.1
  | true => rw [if_pos rfl, List.mem_map, and_iff_right rfl]

/-- A row of a map has an entry where the map has one in that row. -/
theorem mem_entries_rowOf {α : Type} {m : SortedMap Address α} {r c : Nat} {v : α} :
    (c, v) ∈ (rowOf m r).entries ↔ (⟨r, c⟩, v) ∈ m.entries := by
  rw [entries_rowOf, List.mem_map]
  constructor
  · rintro ⟨⟨a, v'⟩, he, heq⟩
    obtain ⟨hmem, hrow⟩ := List.mem_filter.mp he
    obtain ⟨rfl, rfl⟩ := Prod.mk.inj heq
    obtain rfl := beq_iff_eq.mp hrow
    exact hmem
  · intro hmem
    exact ⟨(⟨r, c⟩, v), List.mem_filter.mpr ⟨hmem, beq_self_eq_true r⟩, rfl⟩

/-- The links of a row that is made, if links are asked for and it has some. -/
theorem links_toRows_eq_some {r c : Nat} {target : String} (h : (⟨r, c⟩, target) ∈ g.links.entries) :
    (if true && !(rowOf g.links r).isEmpty then some (rowOf g.links r) else none)
      = some (rowOf g.links r) := by
  have hsome : (rowOf g.links r).isEmpty = false :=
    SortedMap.isEmpty_eq_false_iff.mpr ⟨_, mem_entries_rowOf.mpr h⟩
  rw [hsome]
  rfl

/-- A row is only made for a number under which there is something. -/
theorem filled_of_mem_toRows {row : Row} (h : row ∈ g.toRows includeLinks) : row.Filled := by
  obtain ⟨r, hr, rfl⟩ := List.mem_map.mp h
  rcases mem_rowNumbers.mp hr with ⟨a, ha, rfl⟩ | ⟨rfl, a, ha, rfl⟩
  · obtain ⟨v, hv⟩ := SortedMap.mem_keys.mp ha
    exact Or.inl ⟨_, mem_entries_rowOf.mpr hv⟩
  · obtain ⟨target, htarget⟩ := SortedMap.mem_keys.mp ha
    refine Or.inr ⟨(a.col, target), ?_⟩
    unfold Row.linkMap
    dsimp only
    rw [links_toRows_eq_some htarget]
    exact mem_entries_rowOf.mpr htarget

theorem exists_row_of_link {a : Address} {target : String} (h : g.links.get? a = some target) :
    ∃ row ∈ g.toRows true, row.number = a.row + 1
      ∧ ∃ links, row.links = some links ∧ links.get? a.col = some target := by
  have hentry := SortedMap.get?_eq_some_iff.mp h
  have hnumber : a.row ∈ (g.rowNumbers true).keys :=
    mem_rowNumbers.mpr (Or.inr ⟨rfl, a, SortedMap.mem_keys.mpr ⟨target, hentry⟩, rfl⟩)
  refine ⟨_, List.mem_map_of_mem hnumber, rfl, rowOf g.links a.row, ?_, ?_⟩
  · exact links_toRows_eq_some hentry
  · exact SortedMap.get?_eq_some_iff.mpr (mem_entries_rowOf.mpr hentry)

theorem links_eq_none_of_mem_toRows {row : Row} (h : row ∈ g.toRows false) : row.links = none := by
  obtain ⟨r, _, rfl⟩ := List.mem_map.mp h
  rfl

theorem shows_toRows (g : Grid) (includeLinks : Bool) :
    Row.Shows (g.toRows includeLinks) g includeLinks where
  increasing := g.pairwise_number_toRows includeLinks
  one_le row hrow := by
    obtain ⟨r, _, rfl⟩ := List.mem_map.mp hrow
    exact Nat.succ_pos r
  filled _ := filled_of_mem_toRows
  cells_eq := by rw [cellsOf_toRows, Row.located_numbered]
  links_eq := by
    rw [linksOf_toRows]
    cases includeLinks with
    | false => rfl
    | true => exact Row.located_numbered _
  linked hlinks a target h := by
    subst hlinks
    exact exists_row_of_link h
  unlinked hlinks row hrow := by
    subst hlinks
    exact links_eq_none_of_mem_toRows hrow
  trim _ hrow := g.trim_of_mem_toRows includeLinks hrow

/--
**Rows are a lossless view of a grid.** If its rows have numbers, a grid is made into rows, and these show
it: the numbers increase from one on, every row has something in it, and what the rows hold is what the
grid holds, place by place. Links are there if they are asked for, also those on empty cells, and no row
has a link map without a link.
-/
theorem numberedRows_lossless (g : Grid) (includeLinks : Bool)
    (hcells : ∀ a ∈ g.cells.keys, a.row < Word.max)
    (hlinks : includeLinks = true → ∀ a ∈ g.links.keys, a.row < Word.max) :
    ∃ rows, g.numberedRows includeLinks = .ok rows ∧ Row.Shows rows g includeLinks := by
  refine ⟨g.toRows includeLinks, numbered_eq_ok_of_forall_lt _ ?_, shows_toRows g includeLinks⟩
  intro r hr
  rcases mem_rowNumbers.mp hr with ⟨a, ha, rfl⟩ | ⟨hinclude, a, ha, rfl⟩
  · exact hcells a ha
  · exact hlinks hinclude a ha

/-- Two rows with values, of which one has a link, and a row between them with a link only. -/
def linkedBetween : Grid where
  cells := .ofList [(⟨1, 0⟩, .text "apple"), (⟨1, 1⟩, .int 3), (⟨4, 2⟩, .text "note")]
  links := .ofList [(⟨1, 0⟩, "https://example.com/apple"), (⟨3, 7⟩, "https://example.com/")]

theorem numberedRows_lossless_linkedBetween :
    (∀ a ∈ linkedBetween.cells.keys, a.row < Word.max)
      ∧ (∀ a ∈ linkedBetween.links.keys, a.row < Word.max)
      ∧ ∃ rows, linkedBetween.numberedRows true = .ok rows ∧ Row.Shows rows linkedBetween true
        ∧ rows.map Row.number = [2, 4, 5] := by
  have hcells : ∀ a ∈ linkedBetween.cells.keys, a.row < Word.max := by decide +kernel
  have hlinks : ∀ a ∈ linkedBetween.links.keys, a.row < Word.max := by decide +kernel
  obtain ⟨rows, hrows, hshows⟩ := numberedRows_lossless linkedBetween true hcells fun _ => hlinks
  refine ⟨hcells, hlinks, rows, hrows, hshows, ?_⟩
  have hmade : linkedBetween.numberedRows true = .ok (linkedBetween.toRows true) :=
    numbered_eq_ok_of_forall_lt _ (by decide +kernel)
  rw [← Except.ok.inj (hmade.symm.trans hrows)]
  decide +kernel

end Grid

end Sheetwise
