import Sheetwise.Numbering
import Sheetwise.Proofs.Doubles
import Sheetwise.Proofs.Regions
import Sheetwise.Proofs.Spelling

/-!
# What detection gives

The candidates of a sheet are the tables that it declares and the regions that pass for tables. The
regions keep apart from each other, because the boxes they were shrunk from do, and from the declared
tables, because those that do not were passed over. So no region is among the candidates twice, and
what is left out as a repetition is only a table that was declared before.

Thresholds decide which regions pass and nothing else. Raising some can therefore only take regions
away, and the declared tables stay.
-/

namespace Sheetwise

/-! ## Lists without repetitions -/

theorem nodup_eraseDups {α : Type} [BEq α] [LawfulBEq α] (l : List α) : l.eraseDups.Nodup := by
  induction hn : l.length using Nat.strongRecOn generalizing l with
  | ind n ih =>
      cases l with
      | nil => simp
      | cons a l =>
          rw [List.eraseDups_cons, List.nodup_cons, List.mem_eraseDups]
          have hshorter : (l.filter fun b => !b == a).length < n := by
            have := List.length_filter_le (fun b => !b == a) l
            rw [← hn, List.length_cons]
            omega
          exact ⟨by simp, ih _ hshorter _ rfl⟩

theorem eraseDups_eq_self {α : Type} [BEq α] [LawfulBEq α] {l : List α} (h : l.Nodup) :
    l.eraseDups = l := by
  induction l with
  | nil => rfl
  | cons a l ih =>
      obtain ⟨head, tail⟩ := List.nodup_cons.mp h
      have hfilter : l.filter (fun b => !b == a) = l := by
        rw [List.filter_eq_self]
        intro b hb
        simp only [Bool.not_eq_true', beq_eq_false_iff_ne, ne_eq]
        rintro rfl
        exact head hb
      rw [List.eraseDups_cons, hfilter, ih tail]

/-! ## Thresholds -/

variable {t t' : TableThresholds}

/-- A score reaches all four thresholds. -/
structure RegionScore.Reaches (s : RegionScore) (t : TableThresholds) : Prop where
  nonemptyCells : t.nonemptyCells ≤ s.nonemptyCells
  density : t.density ≤ s.density
  coverage : t.coverage ≤ s.coverage
  score : t.score ≤ s.score

/-- Thresholds of which some are raised and the others kept. -/
structure TableThresholds.Raised (t t' : TableThresholds) : Prop where
  nonemptyCells : t.nonemptyCells ≤ t'.nonemptyCells
  /-- A threshold may be no number, and is then equal to itself but not at most itself. -/
  density : t.density = t'.density ∨ t.density ≤ t'.density
  coverage : t.coverage = t'.coverage ∨ t.coverage ≤ t'.coverage
  score : t.score = t'.score ∨ t.score ≤ t'.score

theorem RegionScore.isAccepted_iff {s : RegionScore} : s.isAccepted t = true ↔ s.Reaches t := by
  simp only [isAccepted, Bool.and_eq_true, decide_eq_true_eq]
  constructor
  · rintro ⟨⟨⟨hcells, hdensity⟩, hcoverage⟩, hscore⟩
    exact ⟨hcells, hdensity, hcoverage, hscore⟩
  · rintro ⟨hcells, hdensity, hcoverage, hscore⟩
    exact ⟨⟨⟨hcells, hdensity⟩, hcoverage⟩, hscore⟩

/-- What reaches raised thresholds reaches the former ones. -/
theorem RegionScore.Reaches.of_raised {s : RegionScore} (h : s.Reaches t') (hraised : t.Raised t') :
    s.Reaches t := by
  have lower {x y z : Float} (hxy : x = y ∨ x ≤ y) (hyz : y ≤ z) : x ≤ z := by
    rcases hxy with rfl | hxy
    · exact hyz
    · exact Binary64.le_trans hxy hyz
  exact ⟨Nat.le_trans hraised.nonemptyCells h.nonemptyCells, lower hraised.density h.density,
    lower hraised.coverage h.coverage, lower hraised.score h.score⟩

namespace Table

variable {g : Grid} {b d : Rect}

/-! ## Candidates -/

theorem mem_scored : b ∈ scored g t ↔ b ∈ undeclared g ∧ (score g b : RegionScore).Reaches t := by
  rw [scored, List.mem_filter, RegionScore.isAccepted_iff]

theorem pairwise_scored (g : Grid) (t : TableThresholds) :
    (scored g t).Pairwise fun a b => a.overlaps b = false :=
  (pairwise_undeclared g).filter _

theorem scored_sublist (g : Grid) (h : t.Raised t') : (scored g t').Sublist (scored g t) := by
  refine List.monotone_filter_right _ fun b hb => ?_
  rw [RegionScore.isAccepted_iff] at hb ⊢
  exact hb.of_raised h

/-- A region that passes is no declared table, which it would overlap. -/
theorem not_mem_declared (h : b ∈ scored g t) : b ∉ declared g := by
  intro hd
  have hapart := (mem_undeclared.mp (mem_scored.mp h).1).2 b hd
  rw [Rect.overlaps_self] at hapart
  cases hapart

theorem nodup_scored (g : Grid) (t : TableThresholds) : (scored g t).Nodup := by
  refine (pairwise_scored g t).imp fun {a b} hapart => ?_
  rintro rfl
  rw [Rect.overlaps_self] at hapart
  cases hapart

/-- Only declared tables are ever there twice. -/
theorem eraseDups_candidates (g : Grid) (t : TableThresholds) :
    (declared g ++ scored g t).eraseDups = (declared g).eraseDups ++ scored g t := by
  have hkept : (scored g t).removeAll (declared g) = scored g t := by
    rw [List.removeAll, List.filter_eq_self]
    intro b hb
    simpa using not_mem_declared hb
  rw [List.eraseDups_append, hkept, eraseDups_eq_self (nodup_scored g t)]

theorem detect_eq (g : Grid) (t : TableThresholds) :
    detect g t = ((declared g).eraseDups ++ scored g t).map Rect.text := by
  rw [detect, eraseDups_candidates]

/-- The candidates under raised thresholds are some of the former ones, in the same order. -/
theorem detect_sublist (g : Grid) (h : t.Raised t') : (detect g t').Sublist (detect g t) := by
  rw [detect_eq, detect_eq]
  exact ((List.Sublist.refl _).append (scored_sublist g h)).map Rect.text

theorem text_mem_detect (hd : d ∈ declared g) (t : TableThresholds) : d.text ∈ detect g t := by
  rw [detect_eq]
  exact List.mem_map_of_mem (List.mem_append_left _ (List.mem_eraseDups.mpr hd))

/-! ## Sheets -/

theorem onSheet_of_tight (h : g.Tight b) (hg : ∀ a ∈ g.cells.keys, a.OnSheet) : b.OnSheet := by
  obtain ⟨col, _, hbottom⟩ := h.bottom
  obtain ⟨row, _, hright⟩ := h.right
  exact ⟨(hg _ (Grid.hasValue_iff.mp hbottom)).1, (hg _ (Grid.hasValue_iff.mp hright)).2⟩

theorem onSheet_of_mem_declared (h : d ∈ declared g) : d.OnSheet := by
  obtain ⟨reference, _, hread⟩ := List.mem_filterMap.mp h
  exact Reference.onSheet_of_rect? hread

theorem onSheet_of_mem_undeclared (h : b ∈ undeclared g) (hg : ∀ a ∈ g.cells.keys, a.OnSheet) :
    b.OnSheet :=
  onSheet_of_tight (tight_of_mem_borderRegions (mem_undeclared.mp h).1) hg

theorem onSheet_of_mem_candidates (hg : ∀ a ∈ g.cells.keys, a.OnSheet)
    (h : b ∈ declared g ++ scored g t) : b.OnSheet := by
  rcases List.mem_append.mp h with h | h
  · exact onSheet_of_mem_declared h
  · exact onSheet_of_mem_undeclared (mem_scored.mp h).1 hg

/-- Detection on a sheet numbers nothing that has no number. -/
theorem numberedDetect_eq_ok (hg : ∀ a ∈ g.cells.keys, a.OnSheet) (t : TableThresholds) :
    numberedDetect g t = .ok (detect g t) := by
  have hword {n : Nat} (h : n < maxRows ∨ n < maxColumns) : n < Word.max := by
    unfold maxRows maxColumns at h
    unfold Word.max
    omega
  apply numbered_eq_ok_of_forall_lt
  intro n hn
  rcases List.mem_append.mp hn with hn | hn
  · obtain ⟨b, hb, hn⟩ := List.mem_flatMap.mp hn
    have hsheet := onSheet_of_mem_undeclared hb hg
    rcases List.mem_cons.mp hn with rfl | hn
    · exact hword (Or.inl (Nat.lt_of_le_of_lt (Nat.sub_le _ _) hsheet.1))
    · rw [List.mem_singleton.mp hn]
      exact hword (Or.inr (Nat.lt_of_le_of_lt (Nat.sub_le _ _) hsheet.2))
  · obtain ⟨b, hb, hn⟩ := List.mem_flatMap.mp hn
    have hsheet := onSheet_of_mem_candidates hg hb
    rcases List.mem_cons.mp hn with rfl | hn
    · exact hword (Or.inl hsheet.1)
    · rw [List.mem_singleton.mp hn]
      exact hword (Or.inr hsheet.2)

/-! ## All of it -/

/-- What the candidates of a sheet are: declared tables and, after them, some regions. -/
structure Detected (g : Grid) (t : TableThresholds) (candidates : List String)
    (regions : List Rect) : Prop where
  /-- The declared tables come first, in their order and each once. -/
  candidates_eq : candidates = ((declared g).eraseDups ++ regions).map Rect.text
  /-- No candidate is there twice. -/
  nodup : candidates.Nodup
  /-- Each candidate reads back as its rectangle. -/
  reads_back : ∀ b ∈ declared g ++ regions, Reference.rect? b.text = some b
  /-- No region overlaps another. -/
  apart : regions.Pairwise fun a b => a.overlaps b = false
  /-- No region overlaps a declared table. -/
  undeclared : ∀ b ∈ regions, ∀ d ∈ declared g, d.overlaps b = false
  /-- Every region has a value on every side. -/
  tight : ∀ b ∈ regions, g.Tight b
  /-- Every region reaches all thresholds. -/
  reaches : ∀ b ∈ regions, (score g b : RegionScore).Reaches t
  /-- No region that a border sets off is missing without need. -/
  complete : ∀ b ∈ borderRegions g, (∀ d ∈ declared g, d.overlaps b = false) →
    (score g b : RegionScore).Reaches t → b ∈ regions

theorem detected_scored (hg : ∀ a ∈ g.cells.keys, a.OnSheet) (t : TableThresholds) :
    Detected g t (detect g t) (scored g t) where
  candidates_eq := detect_eq g t
  nodup := by
    refine (nodup_eraseDups (declared g ++ scored g t)).map_on ?_
    intro a ha b hb
    exact Reference.eq_of_text_eq (onSheet_of_mem_candidates hg (List.mem_eraseDups.mp ha))
      (onSheet_of_mem_candidates hg (List.mem_eraseDups.mp hb))
  reads_back _ hb := Reference.rect?_text (onSheet_of_mem_candidates hg hb)
  apart := pairwise_scored g t
  undeclared _ hb := (mem_undeclared.mp (mem_scored.mp hb).1).2
  tight _ hb := tight_of_mem_borderRegions (mem_undeclared.mp (mem_scored.mp hb).1).1
  reaches _ hb := (mem_scored.mp hb).2
  complete _ hb hapart hreaches := mem_scored.mpr ⟨mem_undeclared.mpr ⟨hb, hapart⟩, hreaches⟩

/--
**Detection is exact.** On a grid whose values lie on a sheet it ends without a fault and gives the
declared tables followed by regions that keep apart from them and from each other, have a value on every
side and reach all thresholds; all candidates are distinct and read back as their rectangles. Raising
thresholds leaves some of these candidates, in the same order, and all declared tables among them.
-/
theorem numberedDetect_exact (g : Grid) (t : TableThresholds) (hg : ∀ a ∈ g.cells.keys, a.OnSheet) :
    numberedDetect g t = .ok (detect g t) ∧ (∃ regions, Detected g t (detect g t) regions)
      ∧ ∀ t', t.Raised t' → numberedDetect g t' = .ok (detect g t')
        ∧ (detect g t').Sublist (detect g t) ∧ ∀ d ∈ declared g, d.text ∈ detect g t' := by
  refine ⟨numberedDetect_eq_ok hg t, ⟨scored g t, detected_scored hg t⟩, ?_⟩
  intro t' hraised
  exact ⟨numberedDetect_eq_ok hg t', detect_sublist g hraised, fun d hd => text_mem_detect hd t'⟩

/-- A framed list from B2 to C3, on a sheet that declares another table. -/
def framed : Grid where
  cells := .ofList [(⟨1, 1⟩, .text "Name"), (⟨1, 2⟩, .text "Qty"), (⟨2, 1⟩, .text "apple"),
    (⟨2, 2⟩, .int 3)]
  borders := .ofList [⟨1, 1⟩, ⟨1, 2⟩, ⟨2, 1⟩, ⟨2, 2⟩]
  declaredTables := ["E5:F9"]

/-- The thresholds that hold unless others are set, in doubles. -/
def usual : TableThresholds := .standard

theorem numberedDetect_exact_framed :
    (∀ a ∈ framed.cells.keys, a.OnSheet)
      ∧ numberedDetect framed usual = .ok (detect framed usual)
      ∧ (∃ regions, Detected framed usual (detect framed usual) regions)
      ∧ ∀ t', usual.Raised t' →
        numberedDetect framed t' = .ok (detect framed t')
          ∧ (detect framed t').Sublist (detect framed usual)
          ∧ ∀ d ∈ declared framed, d.text ∈ detect framed t' := by
  have honsheet : ∀ a ∈ framed.cells.keys, a.OnSheet := by
    unfold Address.OnSheet
    decide +kernel
  exact ⟨honsheet, numberedDetect_exact framed usual honsheet⟩

example : detect framed usual = ["E5:F9", "B2:C3"] := by decide +kernel

end Table

end Sheetwise
