import Mathlib.Data.List.Pairwise
import Sheetwise.Grid
import Sheetwise.Proofs.Sorted

/-!
# What the rows of a sheet hold

The cells of a sheet are kept row by row, and so are its links. Read one after the other they are a
list of places, each with what stands there; the rows are a way of writing that list down. Rows made of
a grid hold what the grid holds. Their numbers increase, so no place comes twice, and a row has a link map
only if it has a link. A row cut to some columns holds the part of it that stands in these columns.
-/

namespace Sheetwise

namespace Row

variable {α : Type} {row : Row} {rows : List Row} {c1 c2 : Nat}

/-- What a map of each row holds, row by row: the number of the row, the column and the content. -/
def placed (f : Row → SortedMap Nat α) (rows : List Row) : List (Nat × Nat × α) :=
  rows.flatMap fun row => (f row).entries.map fun e => (row.number, e)

/-- The links of a row; a row without a link map has none. -/
def linkMap (row : Row) : SortedMap Nat String := row.links.getD ∅

/-- The cells of some rows. -/
def cellsOf (rows : List Row) : List (Nat × Nat × CellValue) := placed cells rows

/-- The links of some rows. -/
def linksOf (rows : List Row) : List (Nat × Nat × String) := placed linkMap rows

/-- There is a cell or a link in the row. -/
def Filled (row : Row) : Prop := (∃ e, e ∈ row.cells.entries) ∨ ∃ e, e ∈ row.linkMap.entries

/-- A row has a link map only if it has a link. -/
def Trim (row : Row) : Prop := ∀ links, row.links = some links → links.isEmpty = false

/-- In a row that has a link map only for links, something is there if it holds something. -/
theorem Trim.isOccupied_iff (h : row.Trim) : row.isOccupied = true ↔ row.Filled := by
  have hlinks : row.links.isSome = true ↔ ∃ e, e ∈ row.linkMap.entries := by
    unfold linkMap
    cases hrow : row.links with
    | none => exact iff_of_false Bool.noConfusion fun ⟨e, he⟩ => List.not_mem_nil he
    | some links => exact iff_of_true rfl (SortedMap.isEmpty_eq_false_iff.mp (h links hrow))
  rw [isOccupied, Bool.or_eq_true, Bool.not_eq_true', SortedMap.isEmpty_eq_false_iff, hlinks, Filled]

/-- Rows with increasing numbers hold things in places that increase. -/
theorem pairwise_placed (f : Row → SortedMap Nat α) (h : (rows.map number).Pairwise (· < ·)) :
    (placed f rows).Pairwise fun a b => a.1 < b.1 ∨ a.1 = b.1 ∧ a.2.1 < b.2.1 := by
  refine List.pairwise_flatMap.mpr ⟨fun row _ => ?_, ?_⟩
  · rw [List.pairwise_map]
    exact (f row).sorted.imp fun hlt => Or.inr ⟨rfl, hlt⟩
  · refine (List.pairwise_map.mp h).imp fun {row row'} hlt a ha b hb => ?_
    obtain ⟨e, _, rfl⟩ := List.mem_map.mp ha
    obtain ⟨e', _, rfl⟩ := List.mem_map.mp hb
    exact Or.inl hlt

/-- Rows with increasing numbers hold nothing twice in the same place. -/
theorem nodup_placed (f : Row → SortedMap Nat α) (h : (rows.map number).Pairwise (· < ·)) :
    ((placed f rows).map fun e => (e.1, e.2.1)).Nodup := by
  rw [List.Nodup, List.pairwise_map]
  refine (pairwise_placed f h).imp fun {a b} hlt heq => ?_
  rw [Prod.mk.injEq] at heq
  omega

/-! ## Cutting -/

/-- The row with its columns from `c1` to `c2` only, and without a link map if none are left. -/
def cut (row : Row) (c1 c2 : Nat) : Row where
  number := row.number
  cells := row.cells.filter fun c _ => decide (c1 ≤ c) && decide (c ≤ c2)
  links := (row.links.map fun links =>
    links.filter fun c _ => decide (c1 ≤ c) && decide (c ≤ c2)).filter fun links => !links.isEmpty

theorem columns_eq {m : SortedMap Nat α} (h : c1 ≤ c2) :
    m.range c1 c2 = .ok (m.filter fun c _ => decide (c1 ≤ c) && decide (c ≤ c2)) := by
  rw [SortedMap.range_of_not_lt m (Nat.not_lt.mpr h), SortedMap.between_nat]

/-- Cutting to columns that do not run backwards succeeds. -/
theorem restrict_eq (h : c1 ≤ c2) : row.restrict c1 c2 = .ok (row.cut c1 c2) := by
  rw [restrict, columns_eq h, cut]
  cases row.links with
  | none => rfl
  | some links =>
      rw [Option.mapM_some, columns_eq h]
      rfl

theorem filter_eq_self {m : SortedMap Nat α} {p : Nat → Bool} (h : m.keys.all p = true) :
    (m.filter fun c _ => p c) = m := by
  apply SortedMap.ext
  refine List.filter_eq_self.mpr fun e he => ?_
  exact List.all_eq_true.mp h e.1 (List.mem_map_of_mem he)

/-- Cutting a row to columns that hold all of it changes nothing. -/
theorem cut_eq_self (h : row.withinColumns c1 c2 = true) (htrim : row.Trim) :
    row.cut c1 c2 = row := by
  obtain ⟨number, cells, links⟩ := row
  obtain ⟨hcells, hlinks⟩ := Bool.and_eq_true_iff.mp h
  simp only [cut, filter_eq_self hcells, Row.mk.injEq, true_and]
  cases links with
  | none => rfl
  | some links =>
      rw [Option.map_some, filter_eq_self hlinks, Option.filter_some_eq_some, htrim links rfl]
      rfl

theorem trim_cut (row : Row) (c1 c2 : Nat) : (row.cut c1 c2).Trim := by
  intro links h
  have := (Option.filter_eq_some_iff.mp h).2
  simpa using this

/-- The links of a row cut to some columns are those in these columns. -/
theorem entries_linkMap_cut (row : Row) (c1 c2 : Nat) :
    (row.cut c1 c2).linkMap.entries
      = row.linkMap.entries.filter fun e => decide (c1 ≤ e.1) && decide (e.1 ≤ c2) := by
  unfold linkMap cut
  cases row.links with
  | none => rfl
  | some links =>
      rw [Option.map_some, Option.filter_some, Option.getD_some]
      split
      · rfl
      · next hempty =>
        rw [Bool.not_eq_true, Bool.not_eq_false'] at hempty
        exact (List.isEmpty_iff.mp hempty).symm

end Row

/-! ## The rows of a grid -/

/-- Sorted items, taken group by group in the order of the groups, come out as they are. -/
theorem flatMap_filter_eq {β : Type} {group : β → Nat} {groups : List Nat} {l : List β}
    (hgroups : groups.Pairwise (· < ·)) (hl : l.Pairwise fun a b => group a ≤ group b)
    (hmem : ∀ a ∈ l, group a ∈ groups) :
    (groups.flatMap fun k => l.filter fun a => group a == k) = l := by
  induction groups generalizing l with
  | nil =>
      cases l with
      | nil => rfl
      | cons a l => exact absurd (hmem a List.mem_cons_self) List.not_mem_nil
  | cons k groups ih =>
      obtain ⟨head, tail⟩ := List.pairwise_cons.mp hgroups
      -- items are in no group below the first one, so those of the first group come first
      have hfirst : l.Pairwise fun a b => (group b == k) = true → (group a == k) = true := by
        refine hl.imp_of_mem fun {a b} ha _ hab hb => ?_
        rw [beq_iff_eq] at hb ⊢
        rcases List.mem_cons.mp (hmem a ha) with heq | hlater
        · exact heq
        · have := head (group a) hlater
          omega
      have hrest : (groups.flatMap fun k' => l.filter fun a => group a == k')
          = l.filter fun a => !(group a == k) := by
        rw [← ih tail (hl.filter fun a => !(group a == k))]
        · refine List.flatMap_congr fun k' hk' => ?_
          rw [List.filter_filter]
          refine List.filter_congr fun a _ => ?_
          have hlater := head k' hk'
          by_cases ha : group a = k'
          · simp [ha]
            omega
          · simp [ha]
        · intro a ha
          obtain ⟨hmemA, hne⟩ := List.mem_filter.mp ha
          refine (List.mem_cons.mp (hmem a hmemA)).resolve_left ?_
          simpa using hne
      rw [List.flatMap_cons, hrest, ← takeWhile_eq_filter hfirst, ← dropWhile_eq_filter hfirst,
        List.takeWhile_append_dropWhile]

namespace Grid

variable (g : Grid) (includeLinks : Bool)

theorem pairwise_number_toRows : ((g.toRows includeLinks).map Row.number).Pairwise (· < ·) := by
  rw [toRows, List.map_map, List.pairwise_map]
  exact (g.rowNumbers includeLinks).pairwise_keys.imp fun h => Nat.succ_lt_succ h

theorem trim_of_mem_toRows {row : Row} (h : row ∈ g.toRows includeLinks) : row.Trim := by
  obtain ⟨r, _, rfl⟩ := List.mem_map.mp h
  intro links hlinks
  dsimp only at hlinks
  split at hlinks
  · next hcond =>
    obtain rfl := Option.some.inj hlinks
    simpa using (Bool.and_eq_true_iff.mp hcond).2
  · cases hlinks

/-- A row of a map holds the entries of that row. -/
theorem entries_rowOf {α : Type} (m : SortedMap Address α) (r : Nat) : (rowOf m r).entries
    = (m.entries.filter fun e => e.1.row == r).map fun e => (e.1.col, e.2) := by
  refine SortedMap.entries_ofList (List.pairwise_map.mpr ?_)
  refine (m.sorted.filter _).imp_of_mem fun {a b} ha hb hab => ?_
  have hrowA := beq_iff_eq.mp (List.mem_filter.mp ha).2
  have hrowB := beq_iff_eq.mp (List.mem_filter.mp hb).2
  rw [Address.lt_iff] at hab
  dsimp only
  omega

/-- A map is what its rows hold, one after the other. -/
theorem flatMap_rowOf {α : Type} {m : SortedMap Address α} {numbers : List Nat}
    (hnumbers : numbers.Pairwise (· < ·)) (hmem : ∀ e ∈ m.entries, e.1.row ∈ numbers) :
    (numbers.flatMap fun r => (rowOf m r).entries.map fun e => (r + 1, e))
      = m.entries.map fun e => (e.1.row + 1, e.1.col, e.2) := by
  have hsorted : m.entries.Pairwise fun a b => a.1.row ≤ b.1.row := by
    refine m.sorted.imp fun {a b} hab => ?_
    rw [Address.lt_iff] at hab
    omega
  have hrow (r : Nat) : (rowOf m r).entries.map (fun e => (r + 1, e))
      = (m.entries.filter fun e => e.1.row == r).map fun e => (e.1.row + 1, e.1.col, e.2) := by
    rw [entries_rowOf, List.map_map]
    refine List.map_congr_left fun e he => ?_
    rw [beq_iff_eq.mp (List.mem_filter.mp he).2]
    rfl
  simp only [hrow]
  rw [← List.map_flatMap, flatMap_filter_eq hnumbers hsorted hmem]

/-- The rows of a grid hold its cells. -/
theorem cellsOf_toRows : Row.cellsOf (g.toRows includeLinks)
    = g.cells.entries.map fun e => (e.1.row + 1, e.1.col, e.2) := by
  rw [Row.cellsOf, Row.placed, toRows, List.flatMap_map]
  refine flatMap_rowOf (g.rowNumbers includeLinks).pairwise_keys fun e he => ?_
  rw [rowNumbers, SortedSet.mem_keys_ofList]
  exact List.mem_append_left _ (List.mem_map_of_mem (SortedMap.mem_keys.mpr ⟨e.2, he⟩))

/-- The rows of a grid hold its links if these are asked for, and else none. -/
theorem linksOf_toRows : Row.linksOf (g.toRows includeLinks)
    = if includeLinks then g.links.entries.map fun e => (e.1.row + 1, e.1.col, e.2) else [] := by
  rw [Row.linksOf, Row.placed, toRows, List.flatMap_map]
  cases includeLinks with
  | false => exact List.flatMap_eq_nil_iff.mpr fun _ _ => rfl
  | true =>
      have hlinks (r : Nat) : ((if true && !(rowOf g.links r).isEmpty then some (rowOf g.links r)
          else none).getD ∅).entries = (rowOf g.links r).entries := by
        cases hempty : (rowOf g.links r).isEmpty with
        | false => rfl
        | true => exact (List.isEmpty_iff.mp hempty).symm
      simp only [Row.linkMap, hlinks]
      refine flatMap_rowOf (g.rowNumbers true).pairwise_keys fun e he => ?_
      rw [rowNumbers, SortedSet.mem_keys_ofList]
      exact List.mem_append_right _ (List.mem_map_of_mem (SortedMap.mem_keys.mpr ⟨e.2, he⟩))

end Grid

end Sheetwise
