import Mathlib.Data.List.Induction
import Sheetwise.Numbering
import Sheetwise.Proofs.Sorted

/-!
# Cells by colour

Two passes report the colours of a sheet: one goes over the fills, the other over the cells that are
there without one. They share a key when a cell is filled in the default background, and they come in
orders of their own. What keeps their lists from repeating a cell is that the second pass leaves out
every cell of the first; what makes the order not matter is that the cells under a key are a set.

Both are said by one relation. A map **gathers** a list of painted cells if it has under each key the
cells that the list has with it, and no key without a cell. Each step of the gathering keeps that, and
two maps that gather lists with the same members are the same map. So a colour may be left out before
the cells are gathered, or its key taken off the map afterwards.
-/

namespace Sheetwise

theorem numbered_eq_ok_iff {α : Type} {indices : List Nat} {value result : α} :
    numbered indices value = .ok result ↔ (∀ i ∈ indices, i < Word.max) ∧ result = value := by
  unfold numbered
  split
  · next h =>
    have hall : ∀ i ∈ indices, i < Word.max := fun i hi =>
      of_decide_eq_true (List.all_eq_true.mp h i hi)
    rw [Except.ok.injEq, and_iff_right hall]
    exact eq_comm
  · next h =>
    refine iff_of_false (fun heq => by cases heq) fun hall => h ?_
    exact List.all_eq_true.mpr fun i hi => decide_eq_true (hall.1 i hi)

/-- Some colour to be left out, in whatever spelling, has a key. -/
def ColorOptions.Ignores (options : ColorOptions) (k : String) : Prop :=
  ∃ c ∈ options.ignoreColors, Color.key c = k

namespace Color

variable {g : Grid} {options : ColorOptions} {k : String} {a : Address} {p : String × Address}
  {ps qs : List (String × Address)} {m m' : SortedMap String (SortedSet Address)}

/-! ## What is painted -/

/--
A cell shows a colour: it is filled in a colour with this key, or it is there without a fill, the default
background is to be reported, and this is its key.
-/
def Shows (g : Grid) (options : ColorOptions) (k : String) (a : Address) : Prop :=
  (∃ color, g.fills.get? a = some color ∧ key color = k)
    ∨ k = "FFFFFF" ∧ options.includeDefaultBackground = true ∧ a ∈ g.styled.keys
      ∧ g.fills.get? a = none

/-- A cell shows one colour at most. -/
theorem Shows.eq {k' : String} (h : Shows g options k a) (h' : Shows g options k' a) : k = k' := by
  rcases h with ⟨color, hfill, hkey⟩ | ⟨hkey, _, _, hfill⟩
  · rcases h' with ⟨color', hfill', hkey'⟩ | ⟨_, _, _, hfill'⟩
    · rw [hfill, Option.some.injEq] at hfill'
      rw [← hkey, ← hkey', hfill']
    · rw [hfill] at hfill'
      cases hfill'
  · rcases h' with ⟨color', hfill', _⟩ | ⟨hkey', _, _, _⟩
    · rw [hfill] at hfill'
      cases hfill'
    · rw [hkey, hkey']

/-- Only cells with a fill and cells that are there show a colour. -/
theorem Shows.mem (h : Shows g options k a) : a ∈ g.fills.keys ∨ a ∈ g.styled.keys := by
  rcases h with ⟨color, hfill, _⟩ | ⟨_, _, hstyled, _⟩
  · exact Or.inl (SortedMap.mem_keys.mpr ⟨color, SortedMap.get?_eq_some_iff.mp hfill⟩)
  · exact Or.inr hstyled

/-- Every cell with a fill shows a colour, and with the default background every cell that is there. -/
theorem exists_shows (hdefault : options.includeDefaultBackground = true)
    (h : a ∈ g.fills.keys ∨ a ∈ g.styled.keys) : ∃ k, Shows g options k a := by
  cases hfill : g.fills.get? a with
  | some color => exact ⟨key color, Or.inl ⟨color, hfill, rfl⟩⟩
  | none =>
      have hnot : a ∉ g.fills.keys := by
        rw [← SortedMap.isSome_get?_iff, hfill]
        exact Bool.false_ne_true
      exact ⟨"FFFFFF", Or.inr ⟨rfl, hdefault, h.resolve_left hnot, hfill⟩⟩

theorem not_contains_ignored_iff :
    (!(options.ignoreColors.map key).contains k) = true ↔ ¬ options.Ignores k := by
  rw [Bool.not_eq_true', ← Bool.not_eq_true, List.contains_iff_mem, List.mem_map]
  exact Iff.rfl

/-- The first pass: the fills with their keys. -/
theorem mem_fills_iff : (k, a) ∈ (g.fills.toList.map fun e => (key e.2, e.1))
    ↔ ∃ color, g.fills.get? a = some color ∧ key color = k := by
  rw [List.mem_map]
  constructor
  · intro h
    obtain ⟨e, he, heq⟩ := h
    rw [Prod.mk.injEq] at heq
    rw [← heq.2]
    exact ⟨e.2, SortedMap.get?_eq_some_iff.mpr he, heq.1⟩
  · intro h
    obtain ⟨color, hfill, hkey⟩ := h
    rw [← hkey]
    exact ⟨(a, color), SortedMap.get?_eq_some_iff.mp hfill, rfl⟩

/-- The second pass: the cells that are there and have no fill. -/
theorem mem_unfilled_iff : (k, a) ∈ ((g.styled.keys.filter fun a => !g.fills.contains a).map
    fun a => (defaultBackground, a)) ↔ k = "FFFFFF" ∧ a ∈ g.styled.keys ∧ g.fills.get? a = none := by
  rw [List.mem_map]
  constructor
  · intro h
    obtain ⟨a', ha', heq⟩ := h
    rw [Prod.mk.injEq] at heq
    rw [List.mem_filter, SortedMap.contains, Bool.not_eq_true', Option.isSome_eq_false_iff,
      Option.isNone_iff_eq_none, heq.2] at ha'
    exact ⟨heq.1.symm, ha'⟩
  · intro h
    obtain ⟨hk, hstyled, hfill⟩ := h
    refine ⟨a, List.mem_filter.mpr ⟨hstyled, ?_⟩, by rw [hk]; rfl⟩
    rw [SortedMap.contains, hfill]
    rfl

/-- **The painted cells are those that show a colour which is not left out.** -/
theorem mem_painted_iff : (k, a) ∈ painted g options ↔ ¬ options.Ignores k ∧ Shows g options k a := by
  unfold painted Shows
  dsimp only
  rw [List.mem_append, List.mem_filter, not_contains_ignored_iff, mem_fills_iff]
  by_cases hdefault : (options.includeDefaultBackground
      && !(options.ignoreColors.map key).contains defaultBackground) = true
  · rw [if_pos hdefault, mem_unfilled_iff]
    rw [Bool.and_eq_true, not_contains_ignored_iff] at hdefault
    constructor
    · intro h
      rcases h with h | h
      · exact ⟨h.2, Or.inl h.1⟩
      · refine ⟨?_, Or.inr ⟨h.1, hdefault.1, h.2⟩⟩
        rw [h.1]
        exact hdefault.2
    · intro h
      rcases h.2 with hfill | hstyled
      · exact Or.inl ⟨hfill, h.1⟩
      · exact Or.inr ⟨hstyled.1, hstyled.2.2⟩
  · -- the second pass is not made, and no cell shows the background unless that is left out
    rw [if_neg hdefault, or_iff_left List.not_mem_nil]
    rw [Bool.and_eq_true, not_contains_ignored_iff] at hdefault
    constructor
    · intro h
      exact ⟨h.2, Or.inl h.1⟩
    · intro h
      refine ⟨h.2.resolve_right fun hstyled => hdefault ⟨hstyled.2.1, ?_⟩, h.1⟩
      rw [defaultBackground, ← hstyled.1]
      exact h.1

/-! ## Gathering -/

/-- The cells that a map has under a key. -/
def under (m : SortedMap String (SortedSet Address)) (k : String) : List Address :=
  ((m.get? k).getD ∅).keys

/-- A map has the painted cells of a list, each under its key. -/
structure Gathers (m : SortedMap String (SortedSet Address)) (ps : List (String × Address)) :
    Prop where
  /-- Under a key are the cells that are painted in its colour. -/
  mem : ∀ k a, a ∈ under m k ↔ (k, a) ∈ ps
  /-- A key without a cell is not there. -/
  nonempty : ∀ k cells, m.get? k = some cells → cells.keys ≠ []

theorem under_of_get? {cells : SortedSet Address} (h : m.get? k = some cells) :
    under m k = cells.keys := by
  rw [under, h]
  rfl

theorem under_of_get?_eq_none (h : m.get? k = none) : under m k = [] := by
  rw [under, h]
  rfl

theorem gathers_empty : Gathers ∅ [] where
  mem k a := iff_of_false List.not_mem_nil List.not_mem_nil
  nonempty k cells h := by cases h

/-- One more cell changes what is under its key, and nothing else. -/
theorem Gathers.add (h : Gathers m ps) (p : String × Address) : Gathers (add m p) (ps ++ [p]) := by
  obtain ⟨key, cell⟩ := p
  have hself : (Color.add m (key, cell)).get? key
      = some (SortedSet.insert ((m.get? key).getD ∅) cell) := SortedMap.get?_insert_self m _ _
  have hother {k : String} (hk : k ≠ key) : (Color.add m (key, cell)).get? k = m.get? k :=
    SortedMap.get?_insert_of_ne m _ hk
  constructor
  · intro k a
    rw [List.mem_append, List.mem_singleton, ← h.mem, Prod.mk.injEq]
    by_cases hk : k = key
    · rw [hk, under_of_get? hself, SortedSet.mem_keys_insert, under, eq_self, true_and]
      exact or_comm
    · rw [under, hother hk, ← under]
      exact (or_iff_left fun heq => hk heq.1).symm
  · intro k cells hcells
    by_cases hk : k = key
    · rw [hk, hself, Option.some.injEq] at hcells
      have hmem : cell ∈ cells.keys := by
        rw [← hcells]
        exact SortedSet.mem_keys_insert.mpr (Or.inl rfl)
      exact List.ne_nil_of_mem hmem
    · rw [hother hk] at hcells
      exact h.nonempty k cells hcells

/-- **All painted cells are gathered.** -/
theorem gathers_foldl (ps : List (String × Address)) : Gathers (ps.foldl Color.add ∅) ps := by
  induction ps using List.reverseRecOn with
  | nil => exact gathers_empty
  | append_singleton ps p ih =>
      rw [List.foldl_append]
      exact ih.add p

/-- **What is gathered does not depend on the order, nor on what comes twice.** -/
theorem Gathers.eq (h : Gathers m ps) (h' : Gathers m' qs) (hmem : ∀ p, p ∈ ps ↔ p ∈ qs) :
    m = m' := by
  have hunder : ∀ k a, a ∈ under m k ↔ a ∈ under m' k := fun k a => by
    rw [h.mem, h'.mem, hmem]
  refine SortedMap.ext_get? fun k => ?_
  cases hk : m.get? k with
  | none =>
      cases hk' : m'.get? k with
      | none => rfl
      | some cells' =>
          obtain ⟨a, ha⟩ := List.exists_mem_of_ne_nil _ (h'.nonempty k cells' hk')
          rw [← under_of_get? hk', ← hunder, under_of_get?_eq_none hk] at ha
          exact absurd ha List.not_mem_nil
  | some cells =>
      cases hk' : m'.get? k with
      | none =>
          obtain ⟨a, ha⟩ := List.exists_mem_of_ne_nil _ (h.nonempty k cells hk)
          rw [← under_of_get? hk, hunder, under_of_get?_eq_none hk'] at ha
          exact absurd ha List.not_mem_nil
      | some cells' =>
          refine congrArg some (SortedSet.ext_mem fun a => ?_)
          rw [← under_of_get? hk, hunder, under_of_get? hk']

/-- A key is taken off by leaving out its cells. -/
theorem Gathers.erase (h : Gathers m ps) (k : String) :
    Gathers (m.erase k) (ps.filter fun p => p.1 ≠ k) := by
  constructor
  · intro k' a
    rw [List.mem_filter, decide_eq_true_eq, ← h.mem]
    by_cases hk : k' = k
    · rw [hk, under_of_get?_eq_none (SortedMap.get?_erase_self m k)]
      exact iff_of_false List.not_mem_nil fun hne => hne.2 rfl
    · rw [under, SortedMap.get?_erase_of_ne m hk, ← under]
      exact (and_iff_left hk).symm
  · intro k' cells hcells
    by_cases hk : k' = k
    · rw [hk, SortedMap.get?_erase_self] at hcells
      cases hcells
    · rw [SortedMap.get?_erase_of_ne m hk] at hcells
      exact h.nonempty k' cells hcells

/-! ## The lists -/

/-- The lists made of painted cells that come in some order. -/
def listing (ps : List (String × Address)) : ColorMap :=
  (ps.foldl add ∅).map fun _ cells => cells.keys.map fun a => (a.row + 1, a.col)

theorem map_eq_listing (g : Grid) (options : ColorOptions) :
    map g options = listing (painted g options) := rfl

theorem listing_congr (h : ∀ p, p ∈ ps ↔ p ∈ qs) : listing ps = listing qs := by
  rw [listing, (gathers_foldl ps).eq (gathers_foldl qs) h, listing]

theorem listing_erase (ps : List (String × Address)) (k : String) :
    (listing ps).erase k = listing (ps.filter fun p => p.1 ≠ k) := by
  rw [listing, ← SortedMap.map_erase,
    ((gathers_foldl ps).erase k).eq (gathers_foldl _) fun _ => Iff.rfl, listing]

theorem get?_listing : (listing ps).get? k
    = ((ps.foldl add ∅).get? k).map fun cells => cells.keys.map fun a => (a.row + 1, a.col) :=
  SortedMap.get?_map _ _ _

/-- A cell, in a row numbered from one, is listed under a key. -/
def Listed (m : ColorMap) (k : String) (cell : Nat × Nat) : Prop :=
  ∃ cells, m.get? k = some cells ∧ cell ∈ cells

/-- Cells are listed by row and, within a row, by column. -/
def Before (c d : Nat × Nat) : Prop := c.1 < d.1 ∨ c.1 = d.1 ∧ c.2 < d.2

theorem Before.ne {c d : Nat × Nat} (h : Before c d) : c ≠ d := by
  intro heq
  rw [heq] at h
  unfold Before at h
  omega

theorem listed_listing_iff {row col : Nat} :
    Listed (listing ps) k (row, col) ↔ ∃ r, row = r + 1 ∧ (k, ⟨r, col⟩) ∈ ps := by
  have h := gathers_foldl ps
  unfold Listed
  rw [get?_listing]
  constructor
  · intro hlisted
    obtain ⟨_, hget, hcell⟩ := hlisted
    obtain ⟨cells, hk, heq⟩ := Option.map_eq_some_iff.mp hget
    rw [← heq] at hcell
    obtain ⟨a, ha, hac⟩ := List.mem_map.mp hcell
    rw [Prod.mk.injEq] at hac
    rw [← under_of_get? hk, h.mem] at ha
    rw [← hac.1, ← hac.2]
    exact ⟨a.row, rfl, ha⟩
  · intro hpainted
    obtain ⟨r, hrow, hmem⟩ := hpainted
    rw [← h.mem] at hmem
    cases hk : (ps.foldl add ∅).get? k with
    | none =>
        rw [under_of_get?_eq_none hk] at hmem
        exact absurd hmem List.not_mem_nil
    | some cells =>
        rw [under_of_get? hk] at hmem
        rw [hrow]
        exact ⟨_, rfl, List.mem_map.mpr ⟨⟨r, col⟩, hmem, rfl⟩⟩

theorem pairwise_of_get?_listing {cells : List (Nat × Nat)} (h : (listing ps).get? k = some cells) :
    cells ≠ [] ∧ cells.Pairwise Before := by
  rw [get?_listing] at h
  obtain ⟨set, hk, heq⟩ := Option.map_eq_some_iff.mp h
  rw [← heq]
  constructor
  · have hne := (gathers_foldl ps).nonempty k set hk
    intro hnil
    exact hne (List.map_eq_nil_iff.mp hnil)
  · rw [List.pairwise_map]
    refine set.pairwise_keys.imp fun {a b} hab => ?_
    rw [Address.lt_iff] at hab
    unfold Before
    dsimp only
    omega

/-! ## The partition -/

/-- A map lists the cells of a grid by the colours that they show. -/
structure Partitions (g : Grid) (options : ColorOptions) (m : ColorMap) : Prop where
  /-- Under a key are the cells that show its colour, unless it is left out. Rows count from one. -/
  listed_iff : ∀ k row col, Listed m k (row, col)
    ↔ ¬ options.Ignores k ∧ ∃ r, row = r + 1 ∧ Shows g options k ⟨r, col⟩
  /-- No cell is listed under two keys. -/
  eq_of_listed : ∀ k k' cell, Listed m k cell → Listed m k' cell → k = k'
  /-- No list is empty, and each one is in order, with no cell twice. -/
  sorted : ∀ k cells, m.get? k = some cells → cells ≠ [] ∧ cells.Pairwise Before
  /-- All lists together have no cell twice. -/
  nodup : m.values.flatten.Nodup
  /-- With the default background and nothing left out, all cells are listed, and listed once. -/
  complete : options.includeDefaultBackground = true → options.ignoreColors = [] →
    ∀ a : Address, a ∈ g.fills.keys ∨ a ∈ g.styled.keys →
      m.values.flatten.count (a.row + 1, a.col) = 1

theorem listed_map_iff {row col : Nat} : Listed (map g options) k (row, col)
    ↔ ¬ options.Ignores k ∧ ∃ r, row = r + 1 ∧ Shows g options k ⟨r, col⟩ := by
  rw [map_eq_listing, listed_listing_iff]
  constructor
  · intro h
    obtain ⟨r, hrow, hmem⟩ := h
    obtain ⟨hignored, hshows⟩ := mem_painted_iff.mp hmem
    exact ⟨hignored, r, hrow, hshows⟩
  · intro h
    obtain ⟨hignored, r, hrow, hshows⟩ := h
    exact ⟨r, hrow, mem_painted_iff.mpr ⟨hignored, hshows⟩⟩

theorem eq_of_listed_map {k' : String} {cell : Nat × Nat} (h : Listed (map g options) k cell)
    (h' : Listed (map g options) k' cell) : k = k' := by
  obtain ⟨row, col⟩ := cell
  obtain ⟨_, r, hrow, hshows⟩ := listed_map_iff.mp h
  obtain ⟨_, r', hrow', hshows'⟩ := listed_map_iff.mp h'
  obtain rfl : r = r' := by omega
  exact hshows.eq hshows'

theorem nodup_values_map (g : Grid) (options : ColorOptions) :
    (map g options).values.flatten.Nodup := by
  have hget {e : String × List (Nat × Nat)} (he : e ∈ (map g options).entries) :
      (map g options).get? e.1 = some e.2 := SortedMap.get?_eq_some_iff.mpr he
  rw [List.nodup_flatten]
  constructor
  · intro cells hcells
    obtain ⟨e, he, rfl⟩ := List.mem_map.mp hcells
    exact (pairwise_of_get?_listing (hget he)).2.imp Before.ne
  · refine List.pairwise_map.mpr ((map g options).sorted.imp_of_mem fun {e e'} he he' hlt => ?_)
    -- a cell that two lists share would be under two keys
    intro cell hcell hcell'
    have heq : e.1 = e'.1 := eq_of_listed_map ⟨e.2, hget he, hcell⟩ ⟨e'.2, hget he', hcell'⟩
    rw [heq] at hlt
    exact KeyOrder.irrefl _ hlt

theorem mem_values_of_listed {m : ColorMap} {cell : Nat × Nat} (h : Listed m k cell) :
    cell ∈ m.values.flatten := by
  obtain ⟨cells, hk, hcell⟩ := h
  exact List.mem_flatten.mpr
    ⟨cells, List.mem_map.mpr ⟨(k, cells), SortedMap.get?_eq_some_iff.mp hk, rfl⟩, hcell⟩

theorem partitions_map (g : Grid) (options : ColorOptions) :
    Partitions g options (map g options) where
  listed_iff _ _ _ := listed_map_iff
  eq_of_listed _ _ _ := eq_of_listed_map
  sorted _ _ := pairwise_of_get?_listing
  nodup := nodup_values_map g options
  complete := by
    intro hdefault hignored a ha
    obtain ⟨k, hshows⟩ := exists_shows hdefault ha
    have hnone : ¬ options.Ignores k := by
      intro h
      obtain ⟨c, hc, _⟩ := h
      rw [hignored] at hc
      exact List.not_mem_nil hc
    have hlisted : Listed (map g options) k (a.row + 1, a.col) :=
      listed_map_iff.mpr ⟨hnone, a.row, rfl, hshows⟩
    exact List.count_eq_one_of_mem (nodup_values_map g options) (mem_values_of_listed hlisted)

/--
**The cells of a sheet are listed by their colours, each exactly where it belongs.** If the rows can be
numbered there is such a listing, and it is the same in whatever order the painted cells come.
-/
theorem numberedMap_partitions (g : Grid) (options : ColorOptions)
    (hrows : ∀ a : Address, a ∈ g.fills.keys ∨ a ∈ g.styled.keys → a.row < Word.max) :
    ∃ m, numberedMap g options = .ok m ∧ Partitions g options m
      ∧ ∀ ps : List (String × Address), ps.Perm (painted g options) → listing ps = m := by
  refine ⟨map g options, ?_, partitions_map g options, ?_⟩
  · refine numbered_eq_ok_iff.mpr ⟨fun row hrow => ?_, rfl⟩
    obtain ⟨p, hp, rfl⟩ := List.mem_map.mp hrow
    exact hrows p.2 (mem_painted_iff.mp hp).2.mem
  · intro ps hperm
    exact listing_congr fun _ => hperm.mem_iff

/-- A grid with yellow in two spellings, white as a fill and green, and three cells that are there. -/
def motley : Grid where
  fills := .ofList [(⟨0, 0⟩, "ffff00"), (⟨0, 1⟩, "#80FFFF00"), (⟨3, 2⟩, " ffffff "),
    (⟨5, 0⟩, "00B050")]
  styled := .ofList [⟨7, 7⟩, ⟨0, 0⟩, ⟨1, 0⟩]

theorem numberedMap_partitions_motley :
    (∀ a : Address, a ∈ motley.fills.keys ∨ a ∈ motley.styled.keys → a.row < Word.max)
      ∧ ∃ m, numberedMap motley ⟨true, ["#FF00b050"]⟩ = .ok m
        ∧ m.entries = [("FFFF00", [(1, 0), (1, 1)]), ("FFFFFF", [(2, 0), (4, 2), (8, 7)])]
        ∧ Partitions motley ⟨true, ["#FF00b050"]⟩ m := by
  have hrows : ∀ a : Address, a ∈ motley.fills.keys ∨ a ∈ motley.styled.keys →
      a.row < Word.max := by
    have hall : ∀ a ∈ motley.fills.keys ++ motley.styled.keys, a.row < Word.max := by
      decide +kernel
    intro a ha
    exact hall a (List.mem_append.mpr ha)
  obtain ⟨m, hm, hpartitions, _⟩ := numberedMap_partitions motley ⟨true, ["#FF00b050"]⟩ hrows
  refine ⟨hrows, m, hm, ?_, hpartitions⟩
  rw [(numbered_eq_ok_iff.mp hm).2]
  decide +kernel

/-! ## Colours to leave out -/

/-- **A spelling that is read as a colour has the key of that colour.** -/
theorem key_of_ofHex? {s : String} (h : ofHex? s = .ok (some k)) : key s = k := by
  unfold ofHex? at h
  unfold key
  dsimp only at h ⊢
  have hdigits {cs : List Char} (h : (if cs.all Text.isHexDigit
      then some (String.ofList (cs.map Char.toUpper)) else none) = some k) :
      String.ofList (cs.map Char.toUpper) = k := by
    split at h
    · exact Option.some.inj h
    · cases h
  split at h
  · next hlength =>
    rw [if_pos hlength]
    cases hcut : afterTwoBytes? (bare s) with
    | none =>
        rw [hcut] at h
        cases h
    | some rest =>
        rw [hcut] at h
        exact hdigits (Except.ok.inj h)
  · next hlength =>
    rw [if_neg (by omega)]
    exact hdigits (Except.ok.inj h)
  · cases h

/-- One more colour is left out, and the others as before. -/
theorem mem_painted_ignoring_iff {s : String} {default : Bool} {before after : List String} :
    p ∈ painted g ⟨default, before ++ s :: after⟩
      ↔ p ∈ (painted g ⟨default, before ++ after⟩).filter fun p => p.1 ≠ key s := by
  obtain ⟨k, a⟩ := p
  rw [List.mem_filter, decide_eq_true_eq, mem_painted_iff, mem_painted_iff]
  have hignores : ColorOptions.Ignores ⟨default, before ++ s :: after⟩ k
      ↔ ColorOptions.Ignores ⟨default, before ++ after⟩ k ∨ k = key s := by
    unfold ColorOptions.Ignores
    simp only [List.mem_append, List.mem_cons]
    constructor
    · intro h
      obtain ⟨c, hc, hkey⟩ := h
      rcases hc with hc | hc | hc
      · exact Or.inl ⟨c, Or.inl hc, hkey⟩
      · rw [hc] at hkey
        exact Or.inr hkey.symm
      · exact Or.inl ⟨c, Or.inr hc, hkey⟩
    · intro h
      rcases h with ⟨c, hc, hkey⟩ | hkey
      · exact ⟨c, hc.imp_right Or.inr, hkey⟩
      · exact ⟨s, Or.inr (Or.inl rfl), hkey.symm⟩
  rw [hignores, not_or]
  constructor
  · intro h
    exact ⟨⟨h.1.1, h.2⟩, h.1.2⟩
  · intro h
    exact ⟨⟨h.1.1, h.2⟩, h.1.2⟩

/--
**A colour is left out in every spelling, and nothing but that colour.** With a spelling that is read as
a colour among those to leave out, the map is the former one without the key of that colour, whether the
cells under it have a fill or show the default background. Where there was a map there still is one.
-/
theorem numberedMap_ignoring {s : String} (h : ofHex? s = .ok (some k)) (g : Grid) (default : Bool)
    (before after : List String) :
    map g ⟨default, before ++ s :: after⟩ = (map g ⟨default, before ++ after⟩).erase k
      ∧ ∀ m, numberedMap g ⟨default, before ++ after⟩ = .ok m →
        numberedMap g ⟨default, before ++ s :: after⟩ = .ok (m.erase k) := by
  have hmap : map g ⟨default, before ++ s :: after⟩
      = (map g ⟨default, before ++ after⟩).erase k := by
    rw [map_eq_listing, map_eq_listing, listing_erase, ← key_of_ofHex? h]
    exact listing_congr fun _ => mem_painted_ignoring_iff
  refine ⟨hmap, fun m hm => ?_⟩
  obtain ⟨hrows, rfl⟩ := numbered_eq_ok_iff.mp hm
  refine numbered_eq_ok_iff.mpr ⟨fun row hrow => ?_, hmap.symm⟩
  -- no cell is painted that was not painted before
  obtain ⟨p, hp, rfl⟩ := List.mem_map.mp hrow
  have hformer := (List.mem_filter.mp (mem_painted_ignoring_iff.mp hp)).1
  exact hrows p.2.row (List.mem_map.mpr ⟨p, hformer, rfl⟩)

/-- White is left out in a spelling with blanks, a number sign, an opacity and letters of both cases. -/
theorem numberedMap_ignoring_white :
    ofHex? "\t #80ffFFfF\u00a0" = .ok (some "FFFFFF")
      ∧ (map motley ⟨true, ["#FF00b050"]⟩).entries
        = [("FFFF00", [(1, 0), (1, 1)]), ("FFFFFF", [(2, 0), (4, 2), (8, 7)])]
      ∧ map motley ⟨true, ["#FF00b050", "\t #80ffFFfF\u00a0"]⟩
        = (map motley ⟨true, ["#FF00b050"]⟩).erase "FFFFFF" := by
  have h : ofHex? "\t #80ffFFfF\u00a0" = .ok (some "FFFFFF") := by decide +kernel
  exact ⟨h, by decide +kernel, (numberedMap_ignoring h motley true ["#FF00b050"] []).1⟩

end Color

end Sheetwise
