import Mathlib.Data.List.Sort
import Sheetwise.Proofs.Areas
import Sheetwise.Proofs.Sorted
import Sheetwise.Reported.Pages

/-!
# The pages that make up an area

The rows of an area and its columns are cut alike: of the breaks, those count that fall after the
first number and not after the last, and each of them starts a stretch that ends before the next one.
What carries the proof is that such stretches *follow on*: each begins where the one before it ended,
the first one at the first number and the last one up to the last. From that they are in order, none
is empty, and every number lies in one of them. A page is a stretch of rows and a stretch of columns.
-/

namespace Sheetwise.Reported

/-! ## Breaks -/

/-- The numbers from `first` to `last` at which a stretch starts: the first, and every break after it. -/
def StartsAt (first last : Nat) (breaks : List Nat) (n : Nat) : Prop :=
  n = first ∨ n ∈ breaks ∧ first < n ∧ n ≤ last

variable {first last n : Nat} {breaks : List Nat}

theorem mem_cuts : n ∈ cuts first last breaks ↔ n ∈ breaks ∧ first < n ∧ n ≤ last := by
  rw [cuts, SortedSet.mem_keys_ofList, List.mem_filter, Bool.and_eq_true, decide_eq_true_eq,
    decide_eq_true_eq]

theorem pairwise_cuts : (cuts first last breaks).Pairwise (· < ·) :=
  SortedMap.pairwise_keys _

/-- Which breaks there are matters, and not their order or how often they are listed. -/
theorem cuts_congr {breaks' : List Nat} (h : ∀ b, b ∈ breaks' ↔ b ∈ breaks) :
    cuts first last breaks' = cuts first last breaks := by
  refine pairwise_cuts.eq_of_mem_iff pairwise_cuts fun n => ?_
  rw [mem_cuts, mem_cuts, h]

theorem spans_congr {breaks' : List Nat} (h : ∀ b, b ∈ breaks' ↔ b ∈ breaks) :
    spans first last breaks' = spans first last breaks := by
  rw [spans, spans, cuts_congr h]

/-! ## Stretches -/

/-- Stretches that follow on each other from one number up to before another. None of them is empty. -/
inductive FollowOn : Nat → List (Nat × Nat) → Nat → Prop where
  | nil (n : Nat) : FollowOn n [] n
  | cons {a b stop : Nat} {rest : List (Nat × Nat)} :
      a ≤ b → FollowOn (b + 1) rest stop → FollowOn a ((a, b) :: rest) stop

namespace FollowOn

variable {start stop : Nat} {ss : List (Nat × Nat)}

theorem start_le (h : FollowOn start ss stop) : start ≤ stop := by
  induction h with
  | nil n => exact Nat.le_refl n
  | cons hab _ ih => exact Nat.le_trans (Nat.le_succ_of_le hab) ih

theorem ordered (h : FollowOn start ss stop) : ∀ s ∈ ss, start ≤ s.1 ∧ s.1 ≤ s.2 := by
  induction h with
  | nil n => exact List.forall_mem_nil _
  | cons hab _ ih =>
      refine List.forall_mem_cons.mpr ⟨⟨Nat.le_refl _, hab⟩, fun s hs => ?_⟩
      have := ih s hs
      omega

theorem pairwise (h : FollowOn start ss stop) : ss.Pairwise fun s t => s.2 < t.1 := by
  induction h with
  | nil n => exact .nil
  | cons hab hrest ih => exact .cons (fun t ht => (hrest.ordered t ht).1) ih

/-- The stretches have the numbers from the start up to before the stop. -/
theorem exists_mem_iff (h : FollowOn start ss stop) :
    (∃ s ∈ ss, s.1 ≤ n ∧ n ≤ s.2) ↔ start ≤ n ∧ n < stop := by
  induction h with
  | nil k =>
      simp only [List.not_mem_nil, false_and, exists_false, false_iff]
      omega
  | cons hab hrest ih =>
      have := hrest.start_le
      rw [List.exists_mem_cons_iff, ih]
      omega

end FollowOn

/-- Stretches between increasing starts and a stop after the last one follow on each other. -/
theorem followOn_stretches {start stop : Nat} {starts : List Nat}
    (h : (start :: starts).Pairwise (· < ·)) (hstop : ∀ n ∈ start :: starts, n < stop) :
    FollowOn start (stretches (start :: (starts ++ [stop]))) stop := by
  induction starts generalizing start with
  | nil =>
      have hlt := hstop start List.mem_cons_self
      refine .cons (by omega) ?_
      rw [Nat.sub_add_cancel (by omega)]
      exact .nil stop
  | cons next starts ih =>
      obtain ⟨head, tail⟩ := List.pairwise_cons.mp h
      have hlt := head next List.mem_cons_self
      refine .cons (by omega) ?_
      rw [Nat.sub_add_cancel (by omega)]
      exact ih tail fun n hn => hstop n (List.mem_cons_of_mem start hn)

theorem map_fst_stretches (start stop : Nat) (starts : List Nat) :
    (stretches (start :: (starts ++ [stop]))).map Prod.fst = start :: starts := by
  induction starts generalizing start with
  | nil => rfl
  | cons next starts ih => exact congrArg (start :: ·) (ih next)

/-- **The numbers up to the last follow on in stretches**, if there is a number after the last. -/
theorem followOn_spans (h : first ≤ last) (hlast : last < Word.max) :
    FollowOn first (spans first last breaks) (last + 1) := by
  rw [spans, List.cons_append, Nat.min_eq_left hlast]
  refine followOn_stretches (.cons (fun n hn => (mem_cuts.mp hn).2.1) pairwise_cuts) ?_
  refine List.forall_mem_cons.mpr ⟨Nat.lt_succ_of_le h, fun n hn => ?_⟩
  exact Nat.lt_succ_of_le (mem_cuts.mp hn).2.2

/-- **Stretches start at the first number and at every break after it, and nowhere else.** -/
theorem startsAt_iff : StartsAt first last breaks n ↔ ∃ s ∈ spans first last breaks, s.1 = n := by
  rw [← List.mem_map, spans, List.cons_append, map_fst_stretches, List.mem_cons, mem_cuts, StartsAt]

/-! ## Pages -/

/-- One page comes before another: it has rows further up, or the same rows and columns further left. -/
def Before (p q : PrintArea) : Prop := p.r2 < q.r1 ∨ p.r1 = q.r1 ∧ p.r2 = q.r2 ∧ p.c2 < q.c1

theorem separate_of_before {p q : PrintArea} (h : Before p q) : p.Separate q := by
  intro row col hp hq
  rw [PrintArea.has_iff] at hp hq
  unfold Before at h
  omega

namespace Area

variable {a : Area} {rowBreaks colBreaks : List Nat}

/-- The rows and columns of an area are numbered from one, and there is a number after each of them. -/
structure Numbered (a : Area) : Prop where
  firstRow : 1 ≤ a.firstRow ∧ a.firstRow < Word.max
  firstCol : 1 ≤ a.firstCol ∧ a.firstCol < Word.max
  lastRow : 1 ≤ a.lastRow ∧ a.lastRow < Word.max
  lastCol : 1 ≤ a.lastCol ∧ a.lastCol < Word.max

/-- The area as a whole, whichever of its corners comes first. -/
def whole (a : Area) : PrintArea := .ofCorners a.firstRow a.firstCol a.lastRow a.lastCol

/-- The stretches of rows that the pages of an area have. -/
def rowSpans (a : Area) (breaks : List Nat) : List (Nat × Nat) :=
  spans (min a.firstRow a.lastRow) (max a.firstRow a.lastRow) breaks

/-- The stretches of columns that the pages of an area have. -/
def colSpans (a : Area) (breaks : List Nat) : List (Nat × Nat) :=
  spans (min a.firstCol a.lastCol) (max a.firstCol a.lastCol) breaks

theorem followOn_rowSpans (h : a.Numbered) (rowBreaks : List Nat) :
    FollowOn (min a.firstRow a.lastRow) (a.rowSpans rowBreaks) (max a.firstRow a.lastRow + 1) :=
  followOn_spans (by omega) (Nat.max_lt.mpr ⟨h.firstRow.2, h.lastRow.2⟩)

theorem followOn_colSpans (h : a.Numbered) (colBreaks : List Nat) :
    FollowOn (min a.firstCol a.lastCol) (a.colSpans colBreaks) (max a.firstCol a.lastCol + 1) :=
  followOn_spans (by omega) (Nat.max_lt.mpr ⟨h.firstCol.2, h.lastCol.2⟩)

theorem ordered_rowSpans (h : a.Numbered) : ∀ r ∈ a.rowSpans rowBreaks, 1 ≤ r.1 ∧ r.1 ≤ r.2 := by
  intro r hr
  have := (followOn_rowSpans h rowBreaks).ordered r hr
  have := h.firstRow.1
  have := h.lastRow.1
  omega

theorem ordered_colSpans (h : a.Numbered) : ∀ c ∈ a.colSpans colBreaks, 1 ≤ c.1 ∧ c.1 ≤ c.2 := by
  intro c hc
  have := (followOn_colSpans h colBreaks).ordered c hc
  have := h.firstCol.1
  have := h.lastCol.1
  omega

/-- A stretch of rows and a stretch of columns, both numbered from one, as a page. -/
def page (r c : Nat × Nat) : PrintArea := ⟨r.1, c.1 - 1, r.2, c.2 - 1⟩

theorem pages_eq (h : a.Numbered) : a.pages rowBreaks colBreaks
    = (a.rowSpans rowBreaks).flatMap fun r => (a.colSpans colBreaks).map (page r) := by
  rw [pages]
  refine List.flatMap_congr fun r hr => List.map_congr_left fun c hc => ?_
  have hr' := ordered_rowSpans h r hr
  have hc' := ordered_colSpans h c hc
  simp only [PrintArea.ofCorners, page, PrintArea.mk.injEq]
  omega

theorem mem_pages (h : a.Numbered) {p : PrintArea} : p ∈ a.pages rowBreaks colBreaks
    ↔ ∃ r ∈ a.rowSpans rowBreaks, ∃ c ∈ a.colSpans colBreaks, page r c = p := by
  rw [pages_eq h, List.mem_flatMap]
  simp only [List.mem_map]

/-- Pages make up an area that is cut at some breaks. -/
structure MadeUpOf (a : Area) (rowBreaks colBreaks : List Nat) (pages : List PrintArea) : Prop where
  /-- No page is empty or has its corners the wrong way round. -/
  ordered : ∀ p ∈ pages, p.r1 ≤ p.r2 ∧ p.c1 ≤ p.c2
  /-- The pages come row by row, and from left to right. -/
  rowByRow : pages.Pairwise Before
  /-- No cell stands on two pages. -/
  separate : pages.Pairwise PrintArea.Separate
  /-- The cells on the pages are those of the area. -/
  cells : ∀ row col, (∃ p ∈ pages, p.Has row col) ↔ a.whole.Has row col
  /-- Pages start at the first row and at every row break after it, and at no other row. -/
  rowStarts : ∀ row, (∃ p ∈ pages, p.r1 = row)
    ↔ StartsAt (min a.firstRow a.lastRow) (max a.firstRow a.lastRow) rowBreaks row
  /-- Pages start at the first column and at every column break after it, and at no other column. -/
  colStarts : ∀ col, (∃ p ∈ pages, p.c1 = col)
    ↔ StartsAt (min a.firstCol a.lastCol) (max a.firstCol a.lastCol) colBreaks (col + 1)

theorem madeUpOf_pages (h : a.Numbered) :
    a.MadeUpOf rowBreaks colBreaks (a.pages rowBreaks colBreaks) := by
  have hrows := followOn_rowSpans h rowBreaks
  have hcols := followOn_colSpans h colBreaks
  have hbefore : (a.pages rowBreaks colBreaks).Pairwise Before := by
    rw [pages_eq h, List.pairwise_flatMap]
    -- pages with the same rows follow on in their columns, and the others in their rows
    constructor
    · intro r hr
      rw [List.pairwise_map]
      refine hcols.pairwise.imp_of_mem fun {c c'} hc hc' hlt => Or.inr ⟨rfl, rfl, ?_⟩
      have := ordered_colSpans h c hc
      show c.2 - 1 < c'.1 - 1
      omega
    · refine hrows.pairwise.imp fun {r r'} hlt p hp q hq => Or.inl ?_
      obtain ⟨c, _, rfl⟩ := List.mem_map.mp hp
      obtain ⟨c', _, rfl⟩ := List.mem_map.mp hq
      exact hlt
  refine
    { ordered := ?ordered
      rowByRow := hbefore
      separate := hbefore.imp separate_of_before
      cells := ?cells
      rowStarts := ?rowStarts
      colStarts := ?colStarts }
  case ordered =>
    intro p hp
    obtain ⟨r, hr, c, hc, rfl⟩ := (mem_pages h).mp hp
    exact ⟨(ordered_rowSpans h r hr).2, Nat.sub_le_sub_right (ordered_colSpans h c hc).2 1⟩
  case cells =>
    intro row col
    rw [whole, PrintArea.has_ofCorners_iff h.firstRow.1 h.lastRow.1 h.firstCol.1 h.lastCol.1]
    have hrow := hrows.exists_mem_iff (n := row)
    have hcol := hcols.exists_mem_iff (n := col + 1)
    constructor
    · rintro ⟨p, hp, hin⟩
      obtain ⟨r, hr, c, hc, rfl⟩ := (mem_pages h).mp hp
      have hc' := ordered_colSpans h c hc
      obtain ⟨h1, h2, h3, h4⟩ := hin
      dsimp only [page] at h1 h2 h3 h4
      have hr := hrow.mp ⟨r, hr, h1, h2⟩
      have hc := hcol.mp ⟨c, hc, by omega, by omega⟩
      omega
    · intro hin
      obtain ⟨r, hr, h1, h2⟩ := hrow.mpr (by omega)
      obtain ⟨c, hc, h3, h4⟩ := hcol.mpr (by omega)
      refine ⟨page r c, (mem_pages h).mpr ⟨r, hr, c, hc, rfl⟩, h1, h2, ?_, ?_⟩
      · exact Nat.sub_le_of_le_add h3
      · exact Nat.le_sub_one_of_lt h4
  case rowStarts =>
    intro row
    rw [startsAt_iff]
    constructor
    · rintro ⟨p, hp, rfl⟩
      obtain ⟨r, hr, c, _, rfl⟩ := (mem_pages h).mp hp
      exact ⟨r, hr, rfl⟩
    · rintro ⟨r, hr, rfl⟩
      -- there is a first column, so there is a page in these rows
      obtain ⟨c, hc, _⟩ := hcols.exists_mem_iff.mpr ⟨Nat.le_refl _, by omega⟩
      exact ⟨page r c, (mem_pages h).mpr ⟨r, hr, c, hc, rfl⟩, rfl⟩
  case colStarts =>
    intro col
    rw [startsAt_iff]
    constructor
    · rintro ⟨p, hp, rfl⟩
      obtain ⟨r, _, c, hc, rfl⟩ := (mem_pages h).mp hp
      exact ⟨c, hc, (Nat.sub_add_cancel (ordered_colSpans h c hc).1).symm⟩
    · rintro ⟨c, hc, hcol⟩
      obtain ⟨r, hr, _⟩ := hrows.exists_mem_iff.mpr ⟨Nat.le_refl _, by omega⟩
      refine ⟨page r c, (mem_pages h).mpr ⟨r, hr, c, hc, rfl⟩, ?_⟩
      show c.1 - 1 = col
      omega

/--
**The pages of an area are the area, cut at its breaks.** They come row by row, no cell of the area is
missing or on two pages, and a page starts where the area does and at every break inside it. The
order of the breaks does not matter, nor how often one is listed.
-/
theorem pages_make_up (a : Area) (h : a.Numbered) (rowBreaks colBreaks : List Nat) :
    a.MadeUpOf rowBreaks colBreaks (a.pages rowBreaks colBreaks)
      ∧ ∀ rowBreaks' colBreaks' : List Nat, (∀ b, b ∈ rowBreaks' ↔ b ∈ rowBreaks) →
        (∀ b, b ∈ colBreaks' ↔ b ∈ colBreaks) →
        a.pages rowBreaks' colBreaks' = a.pages rowBreaks colBreaks := by
  refine ⟨madeUpOf_pages h, fun rowBreaks' colBreaks' hrows hcols => ?_⟩
  rw [pages, pages, spans_congr hrows, spans_congr hcols]

/-- An area given by its corners at the bottom left and at the top right. -/
def leaning : Area := ⟨100, 2, 3, 10⟩

theorem pages_make_up_leaning :
    leaning.Numbered
      ∧ leaning.MadeUpOf [100, 51, 3, 200, 51] [6] (leaning.pages [100, 51, 3, 200, 51] [6])
      ∧ leaning.pages [3, 51, 100, 200] [6, 6] = leaning.pages [100, 51, 3, 200, 51] [6]
      ∧ leaning.pages [3, 51, 100, 200] [6, 6] = [⟨3, 1, 50, 4⟩, ⟨3, 5, 50, 9⟩, ⟨51, 1, 99, 4⟩,
        ⟨51, 5, 99, 9⟩, ⟨100, 1, 100, 4⟩, ⟨100, 5, 100, 9⟩] := by
  have h : leaning.Numbered := ⟨by decide, by decide, by decide, by decide⟩
  obtain ⟨hpages, hsame⟩ := pages_make_up leaning h [100, 51, 3, 200, 51] [6]
  refine ⟨h, hpages, hsame _ _ (fun b => ?_) (fun b => ?_), by decide⟩
  · simp only [List.mem_cons, List.not_mem_nil, or_false]
    omega
  · simp only [List.mem_cons, List.not_mem_nil, or_false, or_self]

end Area

end Sheetwise.Reported
