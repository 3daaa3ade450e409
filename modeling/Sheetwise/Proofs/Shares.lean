import Mathlib.Algebra.Order.Field.Basic
import Mathlib.Data.Finset.Card
import Mathlib.Order.Interval.Finset.Nat
import Sheetwise.Numbering
import Sheetwise.Proofs.Exact
import Sheetwise.Proofs.Regions
import Sheetwise.Proofs.Spelling

/-!
# How a region is filled

Three shares tell how a region is filled: of its cells, of its rows and of its columns. They are counted
apart from each other, but the cells bound the rest. No row has more cells in the region than the region
has columns, so the rows that hold something are at least so many that these cells fit into them, and
likewise the columns. Hence the share of the cells is the least of the three, and none of them is zero
unless all are.

A share is a quotient, and in exact numbers a quotient by zero is zero, which would hide that it has no
meaning. The same score is therefore read once more in numbers that know when they have no value.
-/

namespace Sheetwise

theorem SortedMap.nodup_keys {κ α : Type} [LT κ] [KeyOrder κ] (m : SortedMap κ α) : m.keys.Nodup := by
  refine m.pairwise_keys.imp fun {a b} hlt => ?_
  rintro rfl
  exact KeyOrder.irrefl a hlt

theorem Address.eq_of_row_col {a a' : Address} (hrow : a.row = a'.row) (hcol : a.col = a'.col) :
    a = a' := by
  cases a
  cases a'
  cases hrow
  cases hcol
  rfl

namespace Grid

variable {g : Grid} {b : Rect} {axis other : Address → Nat} {lo hi : Nat}

/-- The scan of a rectangle finds no cell twice. -/
theorem nodup_keysIn (g : Grid) (b : Rect) : (g.keysIn b).Nodup := by
  rw [keysIn_eq_storedIn]
  exact g.cells.nodup_keys.filter _

theorem card_keysIn (g : Grid) (b : Rect) : (g.keysIn b).toFinset.card = g.countIn b :=
  List.toFinset_card_of_nodup (nodup_keysIn g b)

/-- The rows or columns of the cells of a rectangle, without repetition. -/
theorem size_ofList_map (g : Grid) (b : Rect) (axis : Address → Nat) :
    (SortedSet.ofList ((g.keysIn b).map axis)).size = ((g.keysIn b).toFinset.image axis).card := by
  have hmem : (SortedSet.ofList ((g.keysIn b).map axis)).keys.toFinset
      = (g.keysIn b).toFinset.image axis := by
    ext k
    simp [SortedSet.mem_keys_ofList]
  rw [← hmem, List.toFinset_card_of_nodup (SortedMap.nodup_keys _), SortedMap.keys, List.length_map]
  rfl

/-- There are not more rows or columns than cells. -/
theorem size_ofList_map_le (g : Grid) (b : Rect) (axis : Address → Nat) :
    (SortedSet.ofList ((g.keysIn b).map axis)).size ≤ g.countIn b := by
  rw [size_ofList_map, ← card_keysIn]
  exact Finset.card_image_le

/-- There are not more rows or columns than from the first to the last one. -/
theorem size_ofList_map_le_of_bounds (h : ∀ a ∈ g.keysIn b, lo ≤ axis a ∧ axis a ≤ hi) :
    (SortedSet.ofList ((g.keysIn b).map axis)).size ≤ hi - lo + 1 := by
  have hsubset : (g.keysIn b).toFinset.image axis ⊆ Finset.Icc lo hi := by
    intro k hk
    obtain ⟨a, ha, rfl⟩ := Finset.mem_image.mp hk
    exact Finset.mem_Icc.mpr (h a (List.mem_toFinset.mp ha))
  rw [size_ofList_map]
  have hcard := Finset.card_le_card hsubset
  rw [Nat.card_Icc] at hcard
  omega

/-- The cells of a rectangle fit into their rows, as far as these go, or into their columns. -/
theorem countIn_le_mul (hinj : ∀ a a', axis a = axis a' → other a = other a' → a = a')
    (h : ∀ a ∈ g.keysIn b, lo ≤ other a ∧ other a ≤ hi) :
    g.countIn b ≤ (hi - lo + 1) * (SortedSet.ofList ((g.keysIn b).map axis)).size := by
  rw [size_ofList_map, ← card_keysIn]
  refine Finset.card_le_mul_card_image _ _ fun k _ => ?_
  -- within one row the cells are told apart by their columns
  have hcard : ((g.keysIn b).toFinset.filter fun a => axis a = k).card ≤ (Finset.Icc lo hi).card := by
    refine Finset.card_le_card_of_injOn other (fun a ha => ?_) fun a ha a' ha' hother => ?_
    · exact Finset.mem_Icc.mpr (h a (List.mem_toFinset.mp (Finset.mem_filter.mp ha).1))
    · refine hinj a a' ?_ hother
      rw [(Finset.mem_filter.mp ha).2, (Finset.mem_filter.mp ha').2]
  rw [Nat.card_Icc] at hcard
  omega

theorem row_bounds {a : Address} (h : a ∈ g.keysIn b) : b.r1 ≤ a.row ∧ a.row ≤ b.r2 := by
  have hin := Rect.contains_iff.mp (mem_keysIn.mp h).1
  exact ⟨hin.1, hin.2.1⟩

theorem col_bounds {a : Address} (h : a ∈ g.keysIn b) : b.c1 ≤ a.col ∧ a.col ≤ b.c2 :=
  (Rect.contains_iff.mp (mem_keysIn.mp h).1).2.2

theorem size_rowsIn_le (g : Grid) (b : Rect) : (g.rowsIn b).size ≤ b.rowCount :=
  size_ofList_map_le_of_bounds fun _ => row_bounds

theorem countIn_le_rows (g : Grid) (b : Rect) : g.countIn b ≤ b.colCount * (g.rowsIn b).size :=
  countIn_le_mul (fun _ _ => Address.eq_of_row_col) fun _ => col_bounds

theorem countIn_le_cols (g : Grid) (b : Rect) : g.countIn b ≤ b.rowCount * (g.colsIn b).size :=
  countIn_le_mul (fun _ _ hcol hrow => Address.eq_of_row_col hrow hcol) fun _ => row_bounds

/-- A rectangle has no more values than cells. -/
theorem countIn_le_area (g : Grid) (b : Rect) : g.countIn b ≤ b.area := by
  calc g.countIn b ≤ b.colCount * (g.rowsIn b).size := countIn_le_rows g b
    _ ≤ b.colCount * b.rowCount := Nat.mul_le_mul_left _ (size_rowsIn_le g b)
    _ = b.area := Nat.mul_comm _ _

end Grid

/-! ## Numbers that may have no value -/

/-- What a computation in exact numbers comes to, which is nothing once something is divided by zero. -/
inductive PartialRat where
  | number (q : ℚ)
  | undefined
deriving DecidableEq

namespace PartialRat

/-- An operation on two numbers, of which both must have a value. -/
def lift (f : ℚ → ℚ → ℚ) : PartialRat → PartialRat → PartialRat
  | number q, number r => number (f q r)
  | _, _ => undefined

/-- A quotient has a value unless the divisor is zero. -/
def div : PartialRat → PartialRat → PartialRat
  | number q, number r => if r = 0 then undefined else number (q / r)
  | _, _ => undefined

/-- Numbers are compared if both have a value. -/
def le : PartialRat → PartialRat → Bool
  | number q, number r => decide (q ≤ r)
  | _, _ => false

instance : Quantity PartialRat where
  add := lift (· + ·)
  sub := lift (· - ·)
  mul := lift (· * ·)
  div := div
  neg := lift (fun _ q => -q) (number 0)
  zero := number 0
  le x y := le x y = true
  ofInt n := number n
  ofRatio num den := div (number num) (number den)
  toPosition
    | number q => Quantity.toPosition q
    | undefined => 0
  decidableLe x y := inferInstanceAs (Decidable (le x y = true))

@[simp]
theorem number_mul (q r : ℚ) : number q * number r = number (q * r) := rfl

@[simp]
theorem number_le (q r : ℚ) : number q ≤ number r ↔ q ≤ r := decide_eq_true_iff

theorem number_div {q r : ℚ} (h : r ≠ 0) : number q / number r = number (q / r) := if_neg h

theorem ofRatio_eq {num den : Nat} (h : den ≠ 0) :
    (Quantity.ofRatio num den : PartialRat) = number (Quantity.ofRatio num den : ℚ) :=
  if_neg (Nat.cast_ne_zero.mpr h)

end PartialRat

/-- A score in which every number has its value. -/
def RegionScore.defined (s : RegionScore ℚ) : RegionScore PartialRat where
  nonemptyCells := s.nonemptyCells
  density := .number s.density
  coverage := .number s.coverage
  headerRatio := .number s.headerRatio
  score := .number s.score

/-! ## Scores -/

/-- What a score in exact numbers says of a grid and a rectangle. -/
structure RegionScore.Consistent (s : RegionScore ℚ) (g : Grid) (b : Rect) : Prop where
  /-- The cells with a value are counted. -/
  nonemptyCells_eq : s.nonemptyCells = ((Finset.Icc b.r1 b.r2 ×ˢ Finset.Icc b.c1 b.c2).filter
    fun p => (g.value? ⟨p.1, p.2⟩).isSome = true).card
  nonemptyCells_le : s.nonemptyCells ≤ b.area
  density_eq : s.density * b.area = s.nonemptyCells
  density_nonneg : 0 ≤ s.density
  density_le_coverage : s.density ≤ s.coverage
  coverage_le_one : s.coverage ≤ 1
  headerRatio_nonneg : 0 ≤ s.headerRatio
  headerRatio_le_one : s.headerRatio ≤ 1
  /-- The score is not far below the density. -/
  le_score : 8 / 10 * s.density ≤ s.score
  score_le_one : s.score ≤ 1
  /-- The density, the coverage and the count are zero together. -/
  density_eq_zero_iff : s.density = 0 ↔ s.nonemptyCells = 0
  coverage_eq_zero_iff : s.coverage = 0 ↔ s.nonemptyCells = 0

namespace Rect

theorem rowCount_pos (b : Rect) : 0 < b.rowCount := Nat.succ_pos _

theorem colCount_pos (b : Rect) : 0 < b.colCount := Nat.succ_pos _

theorem area_pos (b : Rect) : 0 < b.area := Nat.mul_pos b.rowCount_pos b.colCount_pos

end Rect

namespace Grid

/-- The scan of a rectangle counts the cells in it that have a value. -/
theorem countIn_eq_card (g : Grid) (b : Rect) :
    g.countIn b = ((Finset.Icc b.r1 b.r2 ×ˢ Finset.Icc b.c1 b.c2).filter
      fun p => (g.value? ⟨p.1, p.2⟩).isSome = true).card := by
  rw [← card_keysIn]
  refine Finset.card_nbij' (fun a => (a.row, a.col)) (fun p => ⟨p.1, p.2⟩) ?_ ?_
    (fun _ _ => rfl) (fun _ _ => rfl)
  · intro a ha
    have hkey := List.mem_toFinset.mp ha
    refine Finset.mem_filter.mpr ⟨Finset.mem_product.mpr ⟨?_, ?_⟩, (mem_keysIn.mp hkey).2⟩
    · exact Finset.mem_Icc.mpr (row_bounds hkey)
    · exact Finset.mem_Icc.mpr (col_bounds hkey)
  · intro p hp
    obtain ⟨hin, hvalue⟩ := Finset.mem_filter.mp hp
    obtain ⟨hrow, hcol⟩ := Finset.mem_product.mp hin
    obtain ⟨hr1, hr2⟩ := Finset.mem_Icc.mp hrow
    obtain ⟨hc1, hc2⟩ := Finset.mem_Icc.mp hcol
    exact List.mem_toFinset.mpr
      (mem_keysIn.mpr ⟨Rect.contains_iff.mpr ⟨hr1, hr2, hc1, hc2⟩, hvalue⟩)

end Grid

namespace Table

variable {g : Grid} {b : Rect}

theorem share_eq (part whole : Nat) : (share part whole : ℚ) = part / whole := rfl

theorem share_defined {part whole : Nat} (h : 0 < whole) :
    (share part whole : PartialRat) = .number (share part whole : ℚ) :=
  PartialRat.number_div (by exact_mod_cast h.ne')

theorem share_nonneg (part whole : Nat) : (0 : ℚ) ≤ share part whole := by
  rw [share_eq]
  positivity

theorem share_le_one {part whole : Nat} (h : part ≤ whole) : (share part whole : ℚ) ≤ 1 := by
  rw [share_eq]
  exact div_le_one_of_le₀ (by exact_mod_cast h) (Nat.cast_nonneg _)

theorem share_eq_zero_iff {part whole : Nat} (h : 0 < whole) :
    (share part whole : ℚ) = 0 ↔ part = 0 := by
  rw [share_eq, div_eq_zero_iff, Nat.cast_eq_zero, Nat.cast_eq_zero]
  exact or_iff_left h.ne'

/-- A part of a product has a smaller share of it than its lines have of all lines. -/
theorem share_le_share {part lines width count : Nat} (hwidth : 0 < width) (hcount : 0 < count)
    (h : part ≤ width * lines) : (share part (count * width) : ℚ) ≤ share lines count := by
  rw [share_eq, share_eq, div_le_div_iff₀ (by positivity) (by positivity)]
  have hmul : part * count ≤ lines * (count * width) := by
    calc part * count ≤ width * lines * count := Nat.mul_le_mul_right _ h
      _ = lines * (count * width) := by ring
  exact_mod_cast hmul

/-- The lesser share of rows and of columns is the coverage. -/
theorem coverage_eq (g : Grid) (b : Rect) : (score g b : RegionScore ℚ).coverage
    = min (share (g.rowsIn b).size b.rowCount) (share (g.colsIn b).size b.colCount) :=
  (min_def _ _).symm

theorem density_le_coverage (g : Grid) (b : Rect) :
    (score g b : RegionScore ℚ).density ≤ (score g b : RegionScore ℚ).coverage := by
  have hrows : (share (g.countIn b) (b.rowCount * b.colCount) : ℚ)
      ≤ share (g.rowsIn b).size b.rowCount :=
    share_le_share b.colCount_pos b.rowCount_pos (Grid.countIn_le_rows g b)
  have hcols : (share (g.countIn b) (b.colCount * b.rowCount) : ℚ)
      ≤ share (g.colsIn b).size b.colCount :=
    share_le_share b.rowCount_pos b.colCount_pos (Grid.countIn_le_cols g b)
  rw [Nat.mul_comm] at hcols
  rw [coverage_eq]
  exact le_min hrows hcols

theorem coverage_eq_zero_iff (g : Grid) (b : Rect) :
    (score g b : RegionScore ℚ).coverage = 0 ↔ g.countIn b = 0 := by
  constructor
  · intro h
    have hdensity : (share (g.countIn b) b.area : ℚ) = 0 :=
      le_antisymm (h ▸ density_le_coverage g b) (share_nonneg _ _)
    exact (share_eq_zero_iff b.area_pos).mp hdensity
  · intro h
    -- without cells there are no rows, and the coverage is not above their share
    have hrows : (g.rowsIn b).size = 0 :=
      Nat.le_zero.mp (h ▸ Grid.size_ofList_map_le g b Address.row)
    have hshare : (share (g.rowsIn b).size b.rowCount : ℚ) = 0 :=
      (share_eq_zero_iff b.rowCount_pos).mpr hrows
    have hcols : (0 : ℚ) ≤ share (g.colsIn b).size b.colCount := share_nonneg _ _
    rw [coverage_eq, hshare, min_eq_left hcols]

/-- The first row of a rectangle has no more values than the rectangle has columns. -/
theorem countIn_header_le (g : Grid) (b : Rect) : g.countIn (header b) ≤ b.colCount := by
  have hcols := b.cols_le
  have harea : (header b).area = b.colCount := by
    unfold Rect.area Rect.rowCount Rect.colCount header Rect.ofCorners
    dsimp only
    rw [min_self, max_self, Nat.sub_self, min_eq_left hcols, max_eq_right hcols, Nat.zero_add,
      Nat.one_mul]
  exact (Grid.countIn_le_area g (header b)).trans_eq harea

theorem score_eq (g : Grid) (b : Rect) : (score g b : RegionScore ℚ).score
    = 5 / 10 * (score g b : RegionScore ℚ).density + 3 / 10 * (score g b : RegionScore ℚ).coverage
      + 2 / 10 * (score g b : RegionScore ℚ).headerRatio := rfl

theorem consistent_score (g : Grid) (b : Rect) : (score g b : RegionScore ℚ).Consistent g b := by
  have hdensity : (0 : ℚ) ≤ (score g b : RegionScore ℚ).density := share_nonneg _ _
  have hheader : (0 : ℚ) ≤ (score g b : RegionScore ℚ).headerRatio := share_nonneg _ _
  have hheader' : (score g b : RegionScore ℚ).headerRatio ≤ 1 := share_le_one (countIn_header_le g b)
  have hcoverage := density_le_coverage g b
  have hcoverage' : (score g b : RegionScore ℚ).coverage ≤ 1 := by
    rw [coverage_eq]
    exact (min_le_left _ _).trans (share_le_one (Grid.size_rowsIn_le g b))
  have harea : (b.area : ℚ) ≠ 0 := Nat.cast_ne_zero.mpr b.area_pos.ne'
  exact {
    nonemptyCells_eq := Grid.countIn_eq_card g b
    nonemptyCells_le := Grid.countIn_le_area g b
    density_eq := div_mul_cancel₀ _ harea
    density_nonneg := hdensity
    density_le_coverage := hcoverage
    coverage_le_one := hcoverage'
    headerRatio_nonneg := hheader
    headerRatio_le_one := hheader'
    le_score := by
      rw [score_eq]
      linarith
    score_le_one := by
      rw [score_eq]
      linarith
    density_eq_zero_iff := share_eq_zero_iff b.area_pos
    coverage_eq_zero_iff := coverage_eq_zero_iff g b }

/-- Nothing that goes into a score is divided by zero. -/
theorem score_defined (g : Grid) (b : Rect) :
    (score g b : RegionScore PartialRat) = (score g b : RegionScore ℚ).defined := by
  unfold score RegionScore.defined
  simp only [share_defined b.area_pos, share_defined b.rowCount_pos, share_defined b.colCount_pos,
    PartialRat.ofRatio_eq (Nat.succ_ne_zero _), PartialRat.number_le, PartialRat.number_mul]
  split <;> rfl

/--
**Scores are consistent.** On a sheet every rectangle has a score, and no division by zero goes into it.
It counts the cells with a value. The share of these cells is not above the share of the rows and columns
that hold one, the shares and the score lie from 0 to 1, and the score is at least four fifths of the
density.
-/
theorem numberedScore_consistent (g : Grid) (hb : b.OnSheet) :
    ∃ s : RegionScore ℚ, numberedScore g b = .ok s ∧ s.Consistent g b
      ∧ (numberedScore g b : Checked (RegionScore PartialRat)) = .ok s.defined := by
  have hcounted : ∀ i ∈ [b.r2 - b.r1, b.c2 - b.c1], i < Word.max := by
    obtain ⟨hrow, hcol⟩ := hb
    unfold maxRows at hrow
    unfold maxColumns at hcol
    unfold Word.max
    simp only [List.forall_mem_cons, List.not_mem_nil, false_implies, implies_true, and_true]
    omega
  refine ⟨score g b, numbered_eq_ok_of_forall_lt _ hcounted, consistent_score g b, ?_⟩
  rw [← score_defined]
  exact numbered_eq_ok_of_forall_lt _ hcounted

/-- Three values on a diagonal, and one beside it that is outside. -/
def diagonal : Grid where
  cells := .ofList [(⟨1, 1⟩, .text "a"), (⟨2, 2⟩, .int 2), (⟨2, 7⟩, .int 7), (⟨3, 3⟩, .bool true)]

theorem numberedScore_consistent_diagonal :
    (Rect.ofCorners 1 1 3 4).OnSheet
      ∧ ∃ s : RegionScore ℚ, numberedScore diagonal (.ofCorners 1 1 3 4) = .ok s
        ∧ s.Consistent diagonal (.ofCorners 1 1 3 4) ∧ s.nonemptyCells = 3 ∧ s.density = 1 / 4
        ∧ s.coverage = 3 / 4 := by
  have hsheet : (Rect.ofCorners 1 1 3 4).OnSheet := by decide
  obtain ⟨s, hs, hconsistent, -⟩ := numberedScore_consistent diagonal hsheet
  refine ⟨hsheet, s, hs, hconsistent, ?_⟩
  have hscore : numberedScore diagonal (.ofCorners 1 1 3 4)
      = .ok (score diagonal (.ofCorners 1 1 3 4) : RegionScore ℚ) :=
    numbered_eq_ok_of_forall_lt _ (by decide)
  rw [← Except.ok.inj (hscore.symm.trans hs)]
  decide +kernel

end Table

end Sheetwise
