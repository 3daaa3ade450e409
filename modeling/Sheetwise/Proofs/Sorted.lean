import Mathlib.Data.List.Basic
import Mathlib.Data.List.Sort
import Sheetwise.SortedMap

/-!
# What a sorted map holds

A sorted map is read by scans that stop early: a look-up stops at the first key that is not below, a
range starts and ends with its bounds. Since the keys only increase, nothing is missed by stopping, and
each scan finds what a search of all entries would find.
-/

namespace Sheetwise

/-- Taking while a test holds takes all that pass it, if none passes after one that fails. -/
theorem takeWhile_eq_filter {α : Type} {p : α → Bool} {l : List α}
    (h : l.Pairwise fun a b => p b = true → p a = true) : l.takeWhile p = l.filter p := by
  induction l with
  | nil => rfl
  | cons a l ih =>
      obtain ⟨head, tail⟩ := List.pairwise_cons.mp h
      cases ha : p a with
      | true => rw [List.takeWhile_cons_of_pos ha, List.filter_cons_of_pos ha, ih tail]
      | false =>
          have hnone : l.filter p = [] := by
            rw [List.filter_eq_nil_iff]
            intro b hb hpb
            rw [head b hb hpb] at ha
            cases ha
          rw [List.takeWhile_cons_of_neg (by simp [ha]), List.filter_cons_of_neg (by simp [ha]), hnone]

/-- Dropping while a test holds leaves all that fail it, if none passes after one that fails. -/
theorem dropWhile_eq_filter {α : Type} {p : α → Bool} {l : List α}
    (h : l.Pairwise fun a b => p b = true → p a = true) : l.dropWhile p = l.filter fun a => !p a := by
  induction l with
  | nil => rfl
  | cons a l ih =>
      obtain ⟨head, tail⟩ := List.pairwise_cons.mp h
      cases ha : p a with
      | true =>
          rw [List.dropWhile_cons_of_pos ha, List.filter_cons_of_neg (by simp [ha]), ih tail]
      | false =>
          have hall : l.filter (fun b => !p b) = l := by
            rw [List.filter_eq_self]
            intro b hb
            cases hpb : p b with
            | false => rfl
            | true =>
                rw [head b hb hpb] at ha
                cases ha
          rw [List.dropWhile_cons_of_neg (by simp [ha]), List.filter_cons_of_pos (by simp [ha]), hall]

/-- The first of some increasing numbers is the least. -/
theorem le_of_head?_eq_some {l : List Nat} (h : l.Pairwise (· < ·)) {first n : Nat}
    (hfirst : l.head? = some first) (hn : n ∈ l) : first ≤ n := by
  cases l with
  | nil => cases hn
  | cons a l =>
      obtain rfl := Option.some.inj hfirst
      rcases List.mem_cons.mp hn with rfl | hn
      · exact Nat.le_refl _
      · exact Nat.le_of_lt ((List.pairwise_cons.mp h).1 n hn)

/-- The last of some increasing numbers is the greatest. -/
theorem le_of_getLast?_eq_some {l : List Nat} (h : l.Pairwise (· < ·)) {last n : Nat}
    (hlast : l.getLast? = some last) (hn : n ∈ l) : n ≤ last := by
  obtain ⟨before, rfl⟩ := List.getLast?_eq_some_iff.mp hlast
  rcases List.mem_append.mp hn with hn | hn
  · exact Nat.le_of_lt ((List.pairwise_append.mp h).2.2 n hn last (List.mem_singleton_self last))
  · exact Nat.le_of_eq (List.mem_singleton.mp hn)

namespace KeyOrder

variable {κ : Type} [LT κ] [KeyOrder κ] {k k' : κ}

theorem asymm (h : k < k') : ¬ k' < k := fun h' => irrefl k (trans h h')

theorem eq_of_not_lt (h : ¬ k < k') (h' : ¬ k' < k) : k = k' :=
  ((total k k').resolve_left h).resolve_right h'

end KeyOrder

namespace SortedMap

variable {κ α : Type} [LT κ]

theorem pairwise_keys (m : SortedMap κ α) : m.keys.Pairwise (· < ·) :=
  List.pairwise_map.mpr m.sorted

theorem mem_keys {m : SortedMap κ α} {k : κ} : k ∈ m.keys ↔ ∃ v, (k, v) ∈ m.entries := by
  simp [keys]

theorem isEmpty_eq_false_iff {m : SortedMap κ α} : m.isEmpty = false ↔ ∃ e, e ∈ m.entries := by
  unfold isEmpty
  cases m.entries <;> simp

section Order

variable [DecidableLT κ] [KeyOrder κ]

theorem lookup_eq_some_iff {k : κ} {v : α} {es : List (κ × α)}
    (h : es.Pairwise fun a b => a.1 < b.1) : lookup k es = some v ↔ (k, v) ∈ es := by
  induction es with
  | nil => simp [lookup]
  | cons e es ih =>
      obtain ⟨k', v'⟩ := e
      obtain ⟨head, tail⟩ := List.pairwise_cons.mp h
      rw [lookup, List.mem_cons, Prod.mk.injEq]
      split
      · next hlt =>
        rw [ih tail]
        refine ⟨Or.inr, fun hmem => hmem.resolve_left ?_⟩
        rintro ⟨rfl, rfl⟩
        exact KeyOrder.irrefl _ hlt
      · next hnot =>
        split
        · next hlt =>
          -- every later key is above the first one, which is above this one
          refine ⟨fun hnone => absurd hnone (by simp), ?_⟩
          rintro (⟨rfl, rfl⟩ | hmem)
          · exact absurd hlt (KeyOrder.irrefl _)
          · exact absurd (head _ hmem) (KeyOrder.asymm hlt)
        · next hnot' =>
          obtain rfl := KeyOrder.eq_of_not_lt hnot hnot'
          rw [Option.some.injEq]
          refine ⟨fun heq => Or.inl ⟨rfl, heq.symm⟩, ?_⟩
          rintro (⟨_, rfl⟩ | hmem)
          · rfl
          · exact absurd (head _ hmem) (KeyOrder.irrefl _)

theorem get?_eq_some_iff {m : SortedMap κ α} {k : κ} {v : α} :
    m.get? k = some v ↔ (k, v) ∈ m.entries :=
  lookup_eq_some_iff m.sorted

theorem isSome_get?_iff {m : SortedMap κ α} {k : κ} : (m.get? k).isSome = true ↔ k ∈ m.keys := by
  rw [mem_keys, Option.isSome_iff_exists]
  exact exists_congr fun v => get?_eq_some_iff

omit [KeyOrder κ] in
theorem mem_insertEntry_self (k : κ) (v : α) (es : List (κ × α)) : (k, v) ∈ insertEntry k v es := by
  induction es with
  | nil => exact List.mem_singleton_self _
  | cons e es ih =>
      unfold insertEntry
      split
      · exact List.mem_cons_of_mem _ ih
      · split <;> exact List.mem_cons_self

theorem get?_insert_self (m : SortedMap κ α) (k : κ) (v : α) : (m.insert k v).get? k = some v :=
  get?_eq_some_iff.mpr (mem_insertEntry_self k v m.entries)

theorem get?_erase_self (m : SortedMap κ α) (k : κ) : (m.erase k).get? k = none := by
  rw [Option.eq_none_iff_forall_ne_some]
  intro v hv
  have hk := (List.mem_filter.mp (get?_eq_some_iff.mp hv)).2
  rw [Bool.or_eq_true, decide_eq_true_eq, or_self] at hk
  exact KeyOrder.irrefl k hk

omit [KeyOrder κ] in
/-- An entry of another key is not touched by one that is put in. -/
theorem mem_insertEntry_of_ne {k : κ} {v : α} {e : κ × α} {es : List (κ × α)} (h : e ∈ es)
    (hlt : e.1 < k ∨ k < e.1) : e ∈ insertEntry k v es := by
  induction es with
  | nil => exact absurd h List.not_mem_nil
  | cons e' es ih =>
      unfold insertEntry
      split
      · rcases List.mem_cons.mp h with heq | hmem
        · rw [heq]
          exact List.mem_cons_self
        · exact List.mem_cons_of_mem _ (ih hmem)
      · next hnot =>
        split
        · exact List.mem_cons_of_mem _ h
        · next hnot' =>
          rcases List.mem_cons.mp h with heq | hmem
          · rw [heq] at hlt
            exact absurd hlt (not_or.mpr ⟨hnot, hnot'⟩)
          · exact List.mem_cons_of_mem _ hmem

theorem get?_insert_of_ne (m : SortedMap κ α) {k k' : κ} (v : α) (h : k' ≠ k) :
    (m.insert k v).get? k' = m.get? k' := by
  refine Option.ext fun w => ?_
  rw [get?_eq_some_iff, get?_eq_some_iff]
  constructor
  · intro hmem
    rcases mem_insertEntry hmem with heq | hold
    · exact absurd (congrArg Prod.fst heq) h
    · exact hold
  · intro hmem
    rcases KeyOrder.total k' k with hlt | heq | hlt
    · exact mem_insertEntry_of_ne hmem (Or.inl hlt)
    · exact absurd heq h
    · exact mem_insertEntry_of_ne hmem (Or.inr hlt)

theorem get?_erase_of_ne (m : SortedMap κ α) {k k' : κ} (h : k' ≠ k) :
    (m.erase k).get? k' = m.get? k' := by
  have hlt : k' < k ∨ k < k' := by
    rcases KeyOrder.total k' k with hlt | heq | hlt
    · exact Or.inl hlt
    · exact absurd heq h
    · exact Or.inr hlt
  refine Option.ext fun w => ?_
  rw [get?_eq_some_iff, get?_eq_some_iff, erase, filter, List.mem_filter]
  refine and_iff_left ?_
  rw [Bool.or_eq_true, decide_eq_true_eq, decide_eq_true_eq]
  exact hlt

theorem get?_map {β : Type} (m : SortedMap κ α) (f : κ → α → β) (k : κ) :
    (m.map f).get? k = (m.get? k).map (f k) := by
  refine Option.ext fun w => ?_
  rw [get?_eq_some_iff, Option.map_eq_some_iff, map, List.mem_map]
  constructor
  · intro h
    obtain ⟨e, he, heq⟩ := h
    rw [Prod.mk.injEq] at heq
    rw [← heq.1, ← heq.2]
    exact ⟨e.2, get?_eq_some_iff.mpr he, rfl⟩
  · intro h
    obtain ⟨v, hv, heq⟩ := h
    rw [← heq]
    exact ⟨(k, v), get?_eq_some_iff.mp hv, rfl⟩

omit [KeyOrder κ] in
theorem map_erase {β : Type} (m : SortedMap κ α) (f : κ → α → β) (k : κ) :
    (m.erase k).map f = (m.map f).erase k := by
  apply ext
  show (m.entries.filter _).map _ = (m.entries.map _).filter _
  rw [List.filter_map]
  rfl

/-- A map is determined by its look-ups. -/
theorem ext_get? {m m' : SortedMap κ α} (h : ∀ k, m.get? k = m'.get? k) : m = m' := by
  have hirrefl : Std.Irrefl fun a b : κ × α => a.1 < b.1 := ⟨fun a => KeyOrder.irrefl a.1⟩
  have hantisymm : Std.Antisymm fun a b : κ × α => a.1 < b.1 :=
    ⟨fun _ _ hlt hgt => absurd hgt (KeyOrder.asymm hlt)⟩
  apply ext
  refine m.sorted.eq_of_mem_iff m'.sorted fun e => ?_
  rw [← Prod.mk.eta (p := e), ← get?_eq_some_iff, ← get?_eq_some_iff, h e.1]

/-- A stretch is what a search of all entries for its keys would find, in their order. -/
theorem between_eq_filter (m : SortedMap κ α) (lo hi : κ) :
    m.between lo hi = m.filter fun k _ => !decide (hi < k) && !decide (k < lo) := by
  have hdrop : m.entries.dropWhile (fun e => decide (e.1 < lo))
      = m.entries.filter fun e => !decide (e.1 < lo) := by
    apply dropWhile_eq_filter
    refine m.sorted.imp fun {a b} hab hb => ?_
    exact decide_eq_true (KeyOrder.trans hab (of_decide_eq_true hb))
  apply ext
  show (m.entries.dropWhile _).takeWhile _ = m.entries.filter _
  rw [hdrop, takeWhile_eq_filter, List.filter_filter]
  refine (m.sorted.filter _).imp fun {a b} hab hb => ?_
  simp only [Bool.not_eq_true', decide_eq_false_iff_not] at hb ⊢
  exact fun ha => hb (KeyOrder.trans ha hab)

/-- The same of numbers. -/
theorem between_nat {α : Type} (m : SortedMap Nat α) (lo hi : Nat) :
    m.between lo hi = m.filter fun k _ => decide (lo ≤ k) && decide (k ≤ hi) := by
  rw [between_eq_filter]
  refine ext (List.filter_congr fun e _ => ?_)
  rw [Bool.eq_iff_iff]
  simp [and_comm]

theorem mem_keys_insertEntry {k k' : κ} {v : α} {es : List (κ × α)} :
    k' ∈ (insertEntry k v es).map Prod.fst ↔ k' = k ∨ k' ∈ es.map Prod.fst := by
  induction es with
  | nil => simp [insertEntry]
  | cons e es ih =>
      unfold insertEntry
      split
      · rw [List.map_cons, List.map_cons, List.mem_cons, List.mem_cons, ih]
        tauto
      · next hnot =>
        split
        · rw [List.map_cons, List.mem_cons]
        · next hnot' =>
          obtain rfl := KeyOrder.eq_of_not_lt hnot hnot'
          simp

theorem mem_keys_insert {m : SortedMap κ α} {k k' : κ} {v : α} :
    k' ∈ (m.insert k v).keys ↔ k' = k ∨ k' ∈ m.keys :=
  mem_keys_insertEntry

/-- A value that is there after one is put in is that one or was there before. -/
theorem mem_values_insert {m : SortedMap κ α} {k : κ} {v w : α} (h : w ∈ (m.insert k v).values) :
    w = v ∨ w ∈ m.values := by
  obtain ⟨e, he, rfl⟩ := List.mem_map.mp h
  rcases mem_insertEntry he with rfl | he
  · exact .inl rfl
  · exact .inr (List.mem_map_of_mem he)

omit [KeyOrder κ] in
theorem keys_erase_subset (m : SortedMap κ α) (k : κ) : (m.erase k).keys ⊆ m.keys :=
  List.map_subset _ (List.filter_subset_self _)

omit [KeyOrder κ] in
theorem values_erase_subset (m : SortedMap κ α) (k : κ) : (m.erase k).values ⊆ m.values :=
  List.map_subset _ (List.filter_subset_self _)

omit [KeyOrder κ] in
/-- A key above all others is put at the end. -/
theorem insertEntry_of_forall_lt {k : κ} {v : α} {es : List (κ × α)} (h : ∀ e ∈ es, e.1 < k) :
    insertEntry k v es = es ++ [(k, v)] := by
  induction es with
  | nil => rfl
  | cons e es ih =>
      rw [List.forall_mem_cons] at h
      rw [insertEntry, if_pos h.1, ih h.2, List.cons_append]

theorem entries_foldl_insert {m : SortedMap κ α} {es : List (κ × α)}
    (h : (m.entries ++ es).Pairwise fun a b => a.1 < b.1) :
    (es.foldl (fun m e => m.insert e.1 e.2) m).entries = m.entries ++ es := by
  induction es generalizing m with
  | nil => rw [List.append_nil]; rfl
  | cons e es ih =>
      -- each key is above all that went in before it
      have hlast : (m.insert e.1 e.2).entries = m.entries ++ [e] :=
        insertEntry_of_forall_lt fun a ha =>
          (List.pairwise_append.mp h).2.2 a ha e List.mem_cons_self
      rw [List.append_cons] at h ⊢
      rw [List.foldl_cons, ih (by rw [hlast]; exact h), hlast]

/-- Entries that come in order are the entries of their map. -/
theorem entries_ofList {es : List (κ × α)} (h : es.Pairwise fun a b => a.1 < b.1) :
    (ofList es).entries = es :=
  entries_foldl_insert (m := empty) h

/-- A map is made again of its entries. -/
theorem ofList_entries (m : SortedMap κ α) : ofList m.entries = m :=
  ext (entries_ofList m.sorted)

end Order

end SortedMap

namespace SortedSet

variable {κ : Type} [LT κ] [DecidableLT κ] [KeyOrder κ]

theorem mem_keys_insert {s : SortedSet κ} {k k' : κ} : k' ∈ (insert s k).keys ↔ k' = k ∨ k' ∈ s.keys :=
  SortedMap.mem_keys_insert

/-- A set is determined by its elements. -/
theorem ext_mem {s s' : SortedSet κ} (h : ∀ k, k ∈ s.keys ↔ k ∈ s'.keys) : s = s' := by
  refine SortedMap.ext_get? fun k => Option.ext fun u => ?_
  rw [SortedMap.get?_eq_some_iff, SortedMap.get?_eq_some_iff]
  have hk := h k
  rw [SortedMap.mem_keys, SortedMap.mem_keys] at hk
  constructor
  · intro hmem
    obtain ⟨_, hmem'⟩ := hk.mp ⟨u, hmem⟩
    exact hmem'
  · intro hmem
    obtain ⟨_, hmem'⟩ := hk.mpr ⟨u, hmem⟩
    exact hmem'

theorem mem_keys_foldl_insert {s : SortedSet κ} {ks : List κ} {k : κ} :
    k ∈ (ks.foldl insert s).keys ↔ k ∈ s.keys ∨ k ∈ ks := by
  induction ks generalizing s with
  | nil => simp
  | cons k' ks ih =>
      rw [List.foldl_cons, ih, mem_keys_insert, List.mem_cons]
      tauto

theorem mem_keys_ofList {ks : List κ} {k : κ} : k ∈ (ofList ks).keys ↔ k ∈ ks := by
  unfold ofList
  rw [mem_keys_foldl_insert]
  exact or_iff_right (List.not_mem_nil)

end SortedSet

end Sheetwise
