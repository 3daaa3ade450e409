import Mathlib.Data.List.Forall2
import Sheetwise.Fault

/-!
# Computations that may end in a fault

A computation of several steps gives a value if each step does, and a list gives one if each of its
items does.
-/

namespace Sheetwise

/-- Where two lists are related item by item, each of the second is related to one of the first. -/
theorem exists_of_forall₂_mem {α β : Type} {r : α → β → Prop} {l : List α} {ys : List β} {b : β}
    (h : List.Forall₂ r l ys) (hb : b ∈ ys) : ∃ a ∈ l, r a b := by
  induction h with
  | nil => exact absurd hb List.not_mem_nil
  | cons hhead _ ih =>
      rcases List.mem_cons.mp hb with rfl | hb
      · exact ⟨_, List.mem_cons_self, hhead⟩
      · obtain ⟨a, ha, hab⟩ := ih hb
        exact ⟨a, List.mem_cons_of_mem _ ha, hab⟩

namespace Checked

variable {α β γ : Type}

theorem bind_eq_ok {r : Checked α} {k : α → Checked β} {b : β} :
    r >>= k = .ok b ↔ ∃ a, r = .ok a ∧ k a = .ok b := by
  cases r with
  | error fault => exact iff_of_false (fun h => by cases h) fun ⟨_, h, _⟩ => by cases h
  | ok a =>
      show k a = .ok b ↔ _
      simp

theorem map_eq_ok {f : α → β} {r : Checked α} {b : β} :
    f <$> r = .ok b ↔ ∃ a, r = .ok a ∧ f a = b := by
  cases r with
  | error fault => exact iff_of_false (fun h => by cases h) fun ⟨_, h, _⟩ => by cases h
  | ok a =>
      show Except.ok (f a) = .ok b ↔ _
      simp

/-- What every step keeps, going through a list keeps. -/
theorem foldlM_preserves {σ : Type} {f : σ → α → Checked σ} {P : σ → Prop}
    (hstep : ∀ s a s', P s → f s a = .ok s' → P s') {l : List α} {s s' : σ} (h : P s)
    (hrun : l.foldlM f s = .ok s') : P s' := by
  induction l generalizing s with
  | nil =>
      cases hrun
      exact h
  | cons a l ih =>
      rw [List.foldlM_cons] at hrun
      obtain ⟨s₁, ha, hrun⟩ := bind_eq_ok.mp hrun
      exact ih (hstep s a s₁ h ha) hrun

/-- A list gives the values of its items. -/
theorem mapM_eq_ok {f : α → Checked β} {l : List α} {ys : List β} :
    l.mapM f = .ok ys ↔ List.Forall₂ (fun a b => f a = .ok b) l ys := by
  induction l generalizing ys with
  | nil =>
      rw [List.mapM_nil, List.forall₂_nil_left_iff]
      constructor
      · intro h; cases h; rfl
      · intro h; rw [h]; rfl
  | cons a l ih =>
      rw [List.mapM_cons, bind_eq_ok, List.forall₂_cons_left_iff]
      constructor
      · intro hgiven
        obtain ⟨b, hb, h⟩ := hgiven
        obtain ⟨bs, hbs, h⟩ := bind_eq_ok.mp h
        cases h
        exact ⟨b, bs, hb, ih.mp hbs, rfl⟩
      · intro hgiven
        obtain ⟨b, bs, hb, hbs, rfl⟩ := hgiven
        exact ⟨b, hb, bind_eq_ok.mpr ⟨bs, ih.mpr hbs, rfl⟩⟩

/-- A list of items of which none ends in a fault gives its image. -/
theorem mapM_eq_ok_map {f : α → Checked β} {g : α → β} {l : List α} (h : ∀ a ∈ l, f a = .ok (g a)) :
    l.mapM f = .ok (l.map g) := by
  rw [mapM_eq_ok, List.forall₂_map_right_iff, List.forall₂_same]
  exact h

/-- A list gives values if each of its items does. -/
theorem exists_mapM_eq_ok_iff {f : α → Checked β} {l : List α} :
    (∃ ys, l.mapM f = .ok ys) ↔ ∀ a ∈ l, ∃ b, f a = .ok b := by
  induction l with
  | nil => exact iff_of_true ⟨[], rfl⟩ (List.forall_mem_nil _)
  | cons a l ih =>
      rw [List.forall_mem_cons, ← ih, List.mapM_cons]
      simp only [bind_eq_ok]
      constructor
      · rintro ⟨ys, b, hb, bs, hbs, -⟩
        exact ⟨⟨b, hb⟩, bs, hbs⟩
      · rintro ⟨⟨b, hb⟩, bs, hbs⟩
        exact ⟨b :: bs, b, hb, bs, hbs, rfl⟩

/-- A list of items that each give their image, if anything, gives its image if each item does. -/
theorem mapM_eq_ok_map_iff {f : α → Checked β} {g : α → β} {good : α → Prop} {l : List α}
    {ys : List β} (h : ∀ a b, f a = .ok b ↔ good a ∧ g a = b) :
    l.mapM f = .ok ys ↔ (∀ a ∈ l, good a) ∧ l.map g = ys := by
  constructor
  · intro hl
    have hgood : ∀ a ∈ l, good a := by
      intro a ha
      obtain ⟨b, hb⟩ := exists_mapM_eq_ok_iff.mp ⟨ys, hl⟩ a ha
      exact ((h a b).mp hb).1
    have hmap := mapM_eq_ok_map fun a ha => (h a (g a)).mpr ⟨hgood a ha, rfl⟩
    rw [hl] at hmap
    exact ⟨hgood, (Except.ok.inj hmap).symm⟩
  · rintro ⟨hgood, rfl⟩
    exact mapM_eq_ok_map fun a ha => (h a (g a)).mpr ⟨hgood a ha, rfl⟩

/-- Each value that a list gives is that of one of its items. -/
theorem exists_of_mem_mapM {f : α → Checked β} {l : List α} {ys : List β} {b : β}
    (h : l.mapM f = .ok ys) (hb : b ∈ ys) : ∃ a ∈ l, f a = .ok b :=
  exists_of_forall₂_mem (r := fun a b => f a = .ok b) (mapM_eq_ok.mp h) hb

/-- Lists of lists, each item of which is computed, are computed at one go. -/
theorem mapM_mapM_flatten {items : α → List β} {f : α → β → Checked γ} (l : List α) :
    (do
      let parts ← l.mapM fun a => (items a).mapM (f a)
      return parts.flatten)
      = (l.flatMap fun a => (items a).map (Prod.mk a)).mapM fun p => f p.1 p.2 := by
  induction l with
  | nil => rfl
  | cons a l ih =>
      rw [List.flatMap_cons, List.mapM_append, ← ih, List.mapM_cons, List.mapM_map]
      simp only [bind_assoc, pure_bind, List.flatten_cons, Function.comp_def]

/--
Where one computation gives a value for every item of a list, another gives related values if and only
if it does so for each item.
-/
theorem mapM_related_iff {f f' : α → Checked β} {related : β → β → Prop} {good : α → Prop}
    {l : List α} {ys : List β} (hl : l.mapM f = .ok ys)
    (h : ∀ a ∈ l, ∀ y, f a = .ok y → ((∃ y', f' a = .ok y' ∧ related y y') ↔ good a)) :
    (∃ ys', l.mapM f' = .ok ys' ∧ List.Forall₂ related ys ys') ↔ ∀ a ∈ l, good a := by
  simp only [mapM_eq_ok] at hl ⊢
  induction hl with
  | nil =>
      refine iff_of_true ⟨[], .nil, .nil⟩ (List.forall_mem_nil _)
  | @cons a y l ys ha hl ih =>
      -- no item can make up for another, because values are related place by place
      rw [List.forall_mem_cons] at h ⊢
      rw [← h.1 y ha, ← ih h.2]
      constructor
      · rintro ⟨ys', hf', hrelated⟩
        cases hf' with
        | cons ha' hl' =>
          cases hrelated with
          | cons hhead htail => exact ⟨⟨_, ha', hhead⟩, _, hl', htail⟩
      · rintro ⟨⟨y', ha', hhead⟩, ys', hl', htail⟩
        exact ⟨y' :: ys', .cons ha' hl', .cons hhead htail⟩

end Checked

end Sheetwise
