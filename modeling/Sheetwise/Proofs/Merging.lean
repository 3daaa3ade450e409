import Mathlib.Data.List.Pairwise
import Mathlib.Data.List.Sort
import Mathlib.Data.Set.Basic
import Sheetwise.Proofs.Rectangles
import Sheetwise.Table

/-!
# Joining boxes until none overlap

Joining two overlapping boxes to the box around both may make it overlap a third, one that was passed
over before. So boxes are joined in passes, until a pass joins none. Which boxes a pass joins depends
on the order they come in, but what is left in the end does not. It is the finest family of boxes that
keep apart and hold all the given ones: a box that a pass makes lies within a member of any such
family, because the two boxes it was made of lie within members that overlap, and these are one.
-/

namespace Sheetwise.Table

/-- The boxes of a family overlap no other box of it. -/
def Apart (family : Set Rect) : Prop :=
  ∀ a ∈ family, ∀ b ∈ family, a ≠ b → a.overlaps b = false

/-- Each of some boxes lies within a member of a family. -/
def CoveredBy (boxes : List Rect) (family : Set Rect) : Prop :=
  ∀ b ∈ boxes, ∃ f ∈ family, b.Within f

/-- The members of a family that two overlapping boxes lie in are one. -/
theorem Apart.eq {family : Set Rect} (h : Apart family) {f f' b b' : Rect} (hf : f ∈ family)
    (hf' : f' ∈ family) (hb : b.Within f) (hb' : b'.Within f') (hover : b.overlaps b' = true) :
    f = f' := by
  by_contra hne
  have hapart := h f hf f' hf' hne
  rw [Rect.overlaps_of_within hover hb hb'] at hapart
  cases hapart

/-- In a family that keeps apart, a box lies within one member at most. -/
theorem Apart.existsUnique {family : Set Rect} (h : Apart family) {b : Rect}
    (hb : ∃ f ∈ family, b.Within f) : ∃! f, f ∈ family ∧ b.Within f := by
  obtain ⟨f, hf, hin⟩ := hb
  refine ⟨f, ⟨hf, hin⟩, ?_⟩
  rintro f' ⟨hf', hin'⟩
  exact h.eq hf' hf hin' hin b.overlaps_self

theorem CoveredBy.mono {boxes : List Rect} {family family' : Set Rect}
    (h : CoveredBy boxes family) (h' : ∀ f ∈ family, ∃ f' ∈ family', f.Within f') :
    CoveredBy boxes family' := by
  intro b hb
  obtain ⟨f, hf, hin⟩ := h b hb
  obtain ⟨f', hf', hin'⟩ := h' f hf
  exact ⟨f', hf', hin.trans hin'⟩

/-! ## One box -/

/-- A box is put at the end if it overlaps none. -/
theorem absorb_of_apart {b : Rect} {boxes : List Rect} (h : ∀ m ∈ boxes, m.overlaps b = false) :
    absorb b boxes = boxes ++ [b] := by
  induction boxes with
  | nil => rfl
  | cons m rest ih =>
      rw [List.forall_mem_cons] at h
      rw [absorb, if_neg (by rw [h.1]; decide), ih h.2, List.cons_append]

/-- A box that overlaps one is not put next to the others. -/
theorem length_absorb_of_overlaps {b m : Rect} {boxes : List Rect} (hm : m ∈ boxes)
    (hover : m.overlaps b = true) : (absorb b boxes).length = boxes.length := by
  induction boxes with
  | nil => cases hm
  | cons n rest ih =>
      unfold absorb
      split
      · rfl
      · next hn =>
        rcases List.mem_cons.mp hm with rfl | hm
        · exact absurd hover hn
        · rw [List.length_cons, List.length_cons, ih hm]

theorem coveredBy_absorb (b : Rect) (boxes : List Rect) :
    CoveredBy (b :: boxes) {m | m ∈ absorb b boxes} := by
  induction boxes with
  | nil =>
      intro x hx
      exact ⟨x, hx, Rect.Within.refl x⟩
  | cons m rest ih =>
      unfold absorb
      intro x hx
      split
      · rcases List.mem_cons.mp hx with rfl | hx
        · exact ⟨_, List.mem_cons_self, Rect.within_union_right m x⟩
        · rcases List.mem_cons.mp hx with rfl | hx
          · exact ⟨_, List.mem_cons_self, Rect.within_union_left x b⟩
          · exact ⟨x, List.mem_cons_of_mem _ hx, Rect.Within.refl x⟩
      · by_cases hm : x = m
        · subst hm
          exact ⟨x, List.mem_cons_self, Rect.Within.refl x⟩
        · have hx' : x ∈ b :: rest := by
            rcases List.mem_cons.mp hx with hx | hx
            · exact hx ▸ List.mem_cons_self
            · exact List.mem_cons_of_mem _ ((List.mem_cons.mp hx).resolve_left hm)
          obtain ⟨f, hf, hin⟩ := ih x hx'
          exact ⟨f, List.mem_cons_of_mem _ hf, hin⟩

/-- A joined box is no larger than the member that holds what it was joined from. -/
theorem absorb_coveredBy {b : Rect} {boxes : List Rect} {family : Set Rect} (hapart : Apart family)
    (h : CoveredBy (b :: boxes) family) : CoveredBy (absorb b boxes) family := by
  induction boxes with
  | nil => exact h
  | cons m rest ih =>
      obtain ⟨f, hf, hb⟩ := h b List.mem_cons_self
      obtain ⟨f', hf', hm⟩ := h m (List.mem_cons_of_mem _ List.mem_cons_self)
      have hrest : CoveredBy rest family := fun x hx =>
        h x (List.mem_cons_of_mem _ (List.mem_cons_of_mem _ hx))
      unfold absorb
      split
      · next hover =>
        -- the two are joined because they overlap, so the members they lie in are one
        obtain rfl := hapart.eq hf' hf hm hb hover
        intro x hx
        rcases List.mem_cons.mp hx with rfl | hx
        · exact ⟨f', hf, Rect.union_within hm hb⟩
        · exact hrest x hx
      · intro x hx
        rcases List.mem_cons.mp hx with rfl | hx
        · exact ⟨f', hf', hm⟩
        · exact ih (List.forall_mem_cons.mpr ⟨⟨f, hf, hb⟩, hrest⟩) x hx

/-! ## One pass -/

/-- The boxes after a pass that starts with some already put down. -/
def joinOnto (merged boxes : List Rect) : List Rect :=
  boxes.foldl (fun merged b => absorb b merged) merged

theorem joinOnto_cons (merged : List Rect) (b : Rect) (boxes : List Rect) :
    joinOnto merged (b :: boxes) = joinOnto (absorb b merged) boxes := rfl

theorem coveredBy_joinOnto (merged boxes : List Rect) :
    CoveredBy (merged ++ boxes) {m | m ∈ joinOnto merged boxes} := by
  induction boxes generalizing merged with
  | nil =>
      intro x hx
      rw [List.append_nil] at hx
      exact ⟨x, hx, Rect.Within.refl x⟩
  | cons b boxes ih =>
      rw [joinOnto_cons]
      have hlater := ih (absorb b merged)
      intro x hx
      by_cases hx' : x ∈ boxes
      · exact hlater x (List.mem_append_right _ hx')
      · -- what was put down, or is put down now, lies within something put down now
        have hnow : x ∈ b :: merged := by
          rcases List.mem_append.mp hx with hx | hx
          · exact List.mem_cons_of_mem _ hx
          · exact (List.mem_cons.mp hx).resolve_right hx' ▸ List.mem_cons_self
        obtain ⟨m, hm, hin⟩ := coveredBy_absorb b merged x hnow
        obtain ⟨m', hm', hin'⟩ := hlater m (List.mem_append_left _ hm)
        exact ⟨m', hm', hin.trans hin'⟩

theorem joinOnto_coveredBy {merged boxes : List Rect} {family : Set Rect} (hapart : Apart family)
    (hmerged : CoveredBy merged family) (hboxes : CoveredBy boxes family) :
    CoveredBy (joinOnto merged boxes) family := by
  induction boxes generalizing merged with
  | nil => exact hmerged
  | cons b boxes ih =>
      obtain ⟨hb, hrest⟩ := List.forall_mem_cons.mp hboxes
      exact ih (absorb_coveredBy hapart (List.forall_mem_cons.mpr ⟨hb, hmerged⟩)) hrest

theorem length_joinOnto_le (merged boxes : List Rect) :
    (joinOnto merged boxes).length ≤ merged.length + boxes.length := by
  induction boxes generalizing merged with
  | nil => exact Nat.le_refl _
  | cons b boxes ih =>
      have hrest := ih (absorb b merged)
      have hb : (absorb b merged).length ≤ merged.length + 1 := by
        by_cases h : ∃ m ∈ merged, m.overlaps b = true
        · obtain ⟨m, hm, hover⟩ := h
          rw [length_absorb_of_overlaps hm hover]
          exact Nat.le_succ _
        · rw [absorb_of_apart fun m hm => Bool.eq_false_iff.mpr fun hover => h ⟨m, hm, hover⟩,
            List.length_append]
          exact Nat.le_refl _
      rw [joinOnto_cons, List.length_cons]
      omega

/-- A pass that makes the boxes no fewer joins none, and so has found none that overlap. -/
theorem joinOnto_eq_append {merged boxes : List Rect}
    (hmerged : merged.Pairwise fun a b => a.overlaps b = false)
    (hlength : merged.length + boxes.length ≤ (joinOnto merged boxes).length) :
    joinOnto merged boxes = merged ++ boxes
      ∧ (merged ++ boxes).Pairwise fun a b => a.overlaps b = false := by
  induction boxes generalizing merged with
  | nil =>
      rw [List.append_nil]
      exact ⟨rfl, hmerged⟩
  | cons b boxes ih =>
      rw [joinOnto_cons, List.length_cons] at hlength
      have hrest := length_joinOnto_le (absorb b merged) boxes
      -- had the box overlapped one, there would be fewer boxes now, and a pass never adds any
      have hb : ∀ m ∈ merged, m.overlaps b = false := by
        intro m hm
        by_contra hover
        rw [length_absorb_of_overlaps hm (Bool.eq_true_of_not_eq_false hover)] at hrest
        omega
      have happend := absorb_of_apart hb
      have hmerged' : (merged ++ [b]).Pairwise fun a b => a.overlaps b = false :=
        List.pairwise_append.mpr ⟨hmerged, List.pairwise_singleton _ _, by simpa using hb⟩
      rw [joinOnto_cons, happend, List.append_cons merged b boxes]
      rw [happend] at hlength
      exact ih hmerged' (by rw [List.length_append, List.length_singleton]; omega)

theorem coveredBy_joinOnce (boxes : List Rect) : CoveredBy boxes {m | m ∈ joinOnce boxes} :=
  coveredBy_joinOnto [] boxes

theorem joinOnce_coveredBy {boxes : List Rect} {family : Set Rect} (hapart : Apart family)
    (h : CoveredBy boxes family) : CoveredBy (joinOnce boxes) family :=
  joinOnto_coveredBy hapart (fun _ hx => absurd hx (List.not_mem_nil)) h

theorem joinOnce_eq_self {boxes : List Rect} (h : ¬ (joinOnce boxes).length < boxes.length) :
    joinOnce boxes = boxes ∧ boxes.Pairwise fun a b => a.overlaps b = false :=
  joinOnto_eq_append List.Pairwise.nil (by
    rw [List.length_nil, Nat.zero_add]
    exact Nat.le_of_not_lt h)

/-! ## Order -/

theorem perm_sort (boxes : List Rect) : (Rect.sort boxes).Perm boxes :=
  List.mergeSort_perm boxes _

theorem pairwise_overlaps_sort {boxes : List Rect}
    (h : boxes.Pairwise fun a b => a.overlaps b = false) :
    (Rect.sort boxes).Pairwise fun a b => a.overlaps b = false :=
  ((perm_sort boxes).pairwise_iff Rect.overlaps_eq_false_symm).mpr h

/-- Boxes that keep apart are put in strictly increasing order. -/
theorem pairwise_sort {boxes : List Rect}
    (h : boxes.Pairwise fun a b => a.overlaps b = false) :
    (Rect.sort boxes).Pairwise fun a b => a.compare b = .lt := by
  have hsorted : (Rect.sort boxes).Pairwise fun a b => (a.compare b).isLE = true := by
    apply List.pairwise_mergeSort
    · intro a b c hab hbc
      rw [Rect.isLE_compare_iff] at *
      rw [Rect.compare_eq_lt_iff] at *
      rcases hab with hab | rfl
      · rcases hbc with hbc | rfl
        · left; omega
        · exact Or.inl hab
      · exact hbc
    · intro a b
      rw [Bool.or_eq_true, Rect.isLE_compare_iff, Rect.isLE_compare_iff, Rect.compare_eq_lt_iff,
        Rect.compare_eq_lt_iff, Rect.ext_iff]
      omega
  -- equal neighbours would overlap, so the order is strict
  refine hsorted.imp₂ ?_ (pairwise_overlaps_sort h)
  intro a b hle hab
  rcases Rect.isLE_compare_iff.mp hle with hlt | rfl
  · exact hlt
  · rw [Rect.overlaps_self] at hab
    cases hab

/-! ## All passes -/

/-- What is left when boxes are joined until none overlap. -/
structure Joined (boxes merged : List Rect) : Prop where
  /-- The boxes are in order, and none is there twice. -/
  sorted : merged.Pairwise fun a b => a.compare b = .lt
  /-- No two of them overlap. -/
  apart : merged.Pairwise fun a b => a.overlaps b = false
  /-- Every given box lies within one of them and no other. -/
  holds : ∀ b ∈ boxes, ∃! m, m ∈ merged ∧ b.Within m
  /-- Each lies within one box of any family that keeps apart and holds all the given boxes. -/
  finest : ∀ family : Set Rect, Apart family → CoveredBy boxes family →
    ∀ m ∈ merged, ∃! f, f ∈ family ∧ m.Within f

theorem apart_of_pairwise {boxes : List Rect}
    (h : boxes.Pairwise fun a b => a.overlaps b = false) : Apart {m | m ∈ boxes} := by
  intro a ha b hb hne
  exact h.forall ha hb hne

theorem pairwise_mergeOverlapping (boxes : List Rect) :
    (mergeOverlapping boxes).Pairwise (fun a b => a.compare b = .lt)
      ∧ (mergeOverlapping boxes).Pairwise fun a b => a.overlaps b = false := by
  fun_induction mergeOverlapping boxes with
  | case1 boxes hfewer ih => exact ih
  | case2 boxes hsame =>
      -- the last pass is the one that finds nothing to join
      obtain ⟨heq, hapart⟩ := joinOnce_eq_self hsame
      rw [heq]
      exact ⟨pairwise_sort hapart, pairwise_overlaps_sort hapart⟩

theorem coveredBy_mergeOverlapping (boxes : List Rect) :
    CoveredBy boxes {m | m ∈ mergeOverlapping boxes} := by
  fun_induction mergeOverlapping boxes with
  | case1 boxes hfewer ih => exact (coveredBy_joinOnce boxes).mono ih
  | case2 boxes hsame =>
      refine (coveredBy_joinOnce boxes).mono fun m hm => ⟨m, ?_, Rect.Within.refl m⟩
      exact (perm_sort (joinOnce boxes)).mem_iff.mpr hm

theorem mergeOverlapping_coveredBy {boxes : List Rect} {family : Set Rect} (hapart : Apart family)
    (h : CoveredBy boxes family) : CoveredBy (mergeOverlapping boxes) family := by
  fun_induction mergeOverlapping boxes with
  | case1 boxes hfewer ih => exact ih (joinOnce_coveredBy hapart h)
  | case2 boxes hsame =>
      intro m hm
      exact joinOnce_coveredBy hapart h m ((perm_sort (joinOnce boxes)).mem_iff.mp hm)

theorem joined_mergeOverlapping (boxes : List Rect) : Joined boxes (mergeOverlapping boxes) where
  sorted := (pairwise_mergeOverlapping boxes).1
  apart := (pairwise_mergeOverlapping boxes).2
  holds b hb := (apart_of_pairwise (pairwise_mergeOverlapping boxes).2).existsUnique
    (coveredBy_mergeOverlapping boxes b hb)
  finest _ hapart h m hm := hapart.existsUnique (mergeOverlapping_coveredBy hapart h m hm)

/-- What is left of some boxes lies within what is left of others that hold these. -/
theorem Joined.coveredBy {boxes boxes' merged merged' : List Rect} (h : Joined boxes merged)
    (h' : Joined boxes' merged') (hsub : ∀ b ∈ boxes, b ∈ boxes') :
    CoveredBy merged {m | m ∈ merged'} := by
  intro m hm
  refine (h.finest {m | m ∈ merged'} (apart_of_pairwise h'.apart) ?_ m hm).exists
  intro b hb
  exact (h'.holds b (hsub b hb)).exists

/-- Two families that each lie within the other have the same members. -/
theorem mem_of_coveredBy {merged merged' : List Rect}
    (hapart : merged.Pairwise fun a b => a.overlaps b = false)
    (h : CoveredBy merged {m | m ∈ merged'}) (h' : CoveredBy merged' {m | m ∈ merged}) {m : Rect}
    (hm : m ∈ merged) : m ∈ merged' := by
  obtain ⟨f, hf, hin⟩ := h m hm
  obtain ⟨m', hm', hin'⟩ := h' f hf
  -- the box comes back to a member that it overlaps, so it comes back to itself
  have heq : m = m' := (apart_of_pairwise hapart).eq hm hm' (Rect.Within.refl m)
    (hin.trans hin') m.overlaps_self
  subst heq
  rw [hin.antisymm hin']
  exact hf

/-- What is left is determined by which boxes are given. -/
theorem Joined.eq {boxes boxes' merged merged' : List Rect} (h : Joined boxes merged)
    (h' : Joined boxes' merged') (hsame : ∀ b, b ∈ boxes ↔ b ∈ boxes') : merged = merged' := by
  have hsub := h.coveredBy h' fun b => (hsame b).mp
  have hsup := h'.coveredBy h fun b => (hsame b).mpr
  refine h.sorted.eq_of_mem_iff h'.sorted fun m => ⟨?_, ?_⟩
  · exact mem_of_coveredBy h.apart hsub hsup
  · exact mem_of_coveredBy h'.apart hsup hsub

/--
**Joining overlapping boxes gives the finest family that keeps apart.** The boxes that are left are in
order and do not overlap; each given box lies within exactly one; and each of them lies within a single
box of any family that keeps apart and holds all the given boxes. So the order of the given boxes, and
how often each is given, make no difference.
-/
theorem mergeOverlapping_canonical (boxes : List Rect) :
    Joined boxes (mergeOverlapping boxes)
      ∧ ∀ boxes', (∀ b, b ∈ boxes' ↔ b ∈ boxes) →
        mergeOverlapping boxes' = mergeOverlapping boxes := by
  refine ⟨joined_mergeOverlapping boxes, ?_⟩
  intro boxes' hsame
  exact (joined_mergeOverlapping boxes').eq (joined_mergeOverlapping boxes) hsame

-- the first two boxes keep apart until the third joins one of them
example : mergeOverlapping [⟨2, 0, 2, 0, by decide, by decide⟩, ⟨0, 0, 0, 3, by decide, by decide⟩,
    ⟨0, 3, 4, 3, by decide, by decide⟩] = [⟨0, 0, 4, 3, by decide, by decide⟩] := by
  decide +kernel

end Sheetwise.Table
