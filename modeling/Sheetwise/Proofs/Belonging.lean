import Mathlib.Order.Bounds.Basic
import Sheetwise.Proofs.Forests
import Sheetwise.Proofs.Sorted

/-!
# Which item an item belongs to

An item belongs to the last one before it that has a smaller level. Reading a list never looks for that
item. It keeps a path, drops from the inner end of it whatever is as deep as the new item or deeper, and
takes what comes to the end.

What is dropped is dropped for good, and the proof has to say why it is never missed. Whatever drops an
item comes after it and is no deeper. So if a later item is deeper than the dropped one, it is deeper than
the one that dropped it as well, and that one is closer. The path therefore holds the **open** items,
those with deeper items after them only, and the last item that is less deep than a new one is always
among these.

The nodes are built from the back. A node stays in its place until the item that it belongs to is built
and takes it, and as every item belongs to one other at most, nobody else takes it before.
-/

namespace Sheetwise.Diagram

variable {xs : List Item} {x : Item} {s : Linked} {i j k : Nat}

/-! ## The relation -/

/-- The item at `i` has a smaller level than the one at `j`. -/
def Shallower (xs : List Item) (i j : Nat) : Prop :=
  ∃ a b, xs[i]? = some a ∧ xs[j]? = some b ∧ a.1 < b.1

/-- The item at `i` is the last one before the item at `j` that has a smaller level. -/
def BelongsTo (xs : List Item) (j i : Nat) : Prop := IsGreatest {k | k < j ∧ Shallower xs k j} i

/-- There is an item at `j`, and none before it has a smaller level. -/
def IsRoot (xs : List Item) (j : Nat) : Prop := j < xs.length ∧ ∀ k < j, ¬ Shallower xs k j

theorem lt_length_of_getElem? {a : Item} (h : xs[k]? = some a) : k < xs.length :=
  (List.getElem?_eq_some_iff.mp h).1

theorem BelongsTo.lt (h : BelongsTo xs j i) : i < j := h.1.1

theorem BelongsTo.lt_length (h : BelongsTo xs j i) : j < xs.length := by
  obtain ⟨_, b, _, hb, _⟩ := h.1.2
  exact lt_length_of_getElem? hb

theorem BelongsTo.not_isRoot (h : BelongsTo xs j i) : ¬ IsRoot xs j :=
  fun hroot => hroot.2 i h.lt h.1.2

/-- Items that come later do not matter. -/
theorem shallower_append_iff (hi : i < xs.length) (hj : j < xs.length) :
    Shallower (xs ++ [x]) i j ↔ Shallower xs i j := by
  unfold Shallower
  rw [List.getElem?_append_left hi, List.getElem?_append_left hj]

theorem shallower_last_iff (hi : i < xs.length) :
    Shallower (xs ++ [x]) i xs.length ↔ ∃ a, xs[i]? = some a ∧ a.1 < x.1 := by
  unfold Shallower
  rw [List.getElem?_append_left hi, List.getElem?_concat_length]
  constructor
  · intro h
    obtain ⟨a, b, ha, hb, hlt⟩ := h
    rw [Option.some.inj hb]
    exact ⟨a, ha, hlt⟩
  · intro h
    obtain ⟨a, ha, hlt⟩ := h
    exact ⟨a, x, ha, rfl, hlt⟩

theorem belongsTo_append_of_lt (hj : j < xs.length) :
    BelongsTo (xs ++ [x]) j i ↔ BelongsTo xs j i := by
  have hset : {k | k < j ∧ Shallower (xs ++ [x]) k j} = {k | k < j ∧ Shallower xs k j} := by
    ext k
    exact and_congr_right fun hk => shallower_append_iff (hk.trans hj) hj
  rw [BelongsTo, hset, BelongsTo]

theorem isRoot_append_of_lt (hj : j < xs.length) : IsRoot (xs ++ [x]) j ↔ IsRoot xs j := by
  have hlength : j < (xs ++ [x]).length := by rw [List.length_append]; omega
  refine and_congr (iff_of_true hlength hj) (forall₂_congr fun k hk => not_congr ?_)
  exact shallower_append_iff (hk.trans hj) hj

/-- With one more item, what belonged somewhere stays there, and only the new item is added. -/
theorem belongsTo_append_iff : BelongsTo (xs ++ [x]) j i
    ↔ BelongsTo xs j i ∨ j = xs.length ∧ BelongsTo (xs ++ [x]) xs.length i := by
  constructor
  · intro h
    have hlength := h.lt_length
    rw [List.length_append, List.length_singleton] at hlength
    by_cases hj : j < xs.length
    · exact Or.inl ((belongsTo_append_of_lt hj).mp h)
    · obtain rfl : j = xs.length := by omega
      exact Or.inr ⟨rfl, h⟩
  · intro h
    rcases h with h | h
    · exact (belongsTo_append_of_lt h.lt_length).mpr h
    · rw [h.1]
      exact h.2

theorem isRoot_append_iff : IsRoot (xs ++ [x]) j
    ↔ IsRoot xs j ∨ j = xs.length ∧ IsRoot (xs ++ [x]) xs.length := by
  constructor
  · intro h
    have hlength := h.1
    rw [List.length_append, List.length_singleton] at hlength
    by_cases hj : j < xs.length
    · exact Or.inl ((isRoot_append_of_lt hj).mp h)
    · obtain rfl : j = xs.length := by omega
      exact Or.inr ⟨rfl, h⟩
  · intro h
    rcases h with h | h
    · exact (isRoot_append_of_lt h.1).mpr h
    · rw [h.1]
      exact h.2

/-! ## Open items -/

/-- An item, given by its level and place, with deeper ones after it only. -/
def IsOpen (xs : List Item) (e : Nat × Nat) : Prop :=
  ∃ text, xs[e.2]? = some (e.1, text) ∧ ∀ k a, e.2 < k → xs[k]? = some a → e.1 < a.1

theorem IsOpen.lt_length {e : Nat × Nat} (h : IsOpen xs e) : e.2 < xs.length := by
  obtain ⟨_, htext, _⟩ := h
  exact lt_length_of_getElem? htext

/-- Of two open items the later one is deeper. -/
theorem IsOpen.level_lt {e e' : Nat × Nat} (h : IsOpen xs e) (h' : IsOpen xs e') (hlt : e.2 < e'.2) :
    e.1 < e'.1 := by
  obtain ⟨_, _, hafter⟩ := h
  obtain ⟨_, htext', _⟩ := h'
  exact hafter e'.2 _ hlt htext'

/-- A new item is open, and closes those that are not less deep. -/
theorem isOpen_append_iff {e : Nat × Nat} :
    IsOpen (xs ++ [x]) e ↔ e = (x.1, xs.length) ∨ IsOpen xs e ∧ e.1 < x.1 := by
  have hlast : (xs ++ [x])[xs.length]? = some x := List.getElem?_concat_length
  constructor
  · intro h
    obtain ⟨text, htext, hafter⟩ := h
    have hlength := lt_length_of_getElem? htext
    rw [List.length_append, List.length_singleton] at hlength
    by_cases he : e.2 < xs.length
    · rw [List.getElem?_append_left he] at htext
      refine Or.inr ⟨⟨text, htext, fun k a hk ha => hafter k a hk ?_⟩, hafter _ x he hlast⟩
      rw [List.getElem?_append_left (lt_length_of_getElem? ha)]
      exact ha
    · have hplace : e.2 = xs.length := by omega
      rw [hplace, hlast] at htext
      have hx := Option.some.inj htext
      exact Or.inl (Prod.ext (by rw [hx]) hplace)
  · intro h
    rcases h with rfl | ⟨⟨text, htext, hafter⟩, hlt⟩
    · refine ⟨x.2, hlast, fun k a hk ha => ?_⟩
      have hlength := lt_length_of_getElem? ha
      rw [List.length_append, List.length_singleton] at hlength
      dsimp only at hk
      omega
    · refine ⟨text, ?_, fun k a hk ha => ?_⟩
      · rw [List.getElem?_append_left (lt_length_of_getElem? htext)]
        exact htext
      · by_cases hlength : k < xs.length
        · rw [List.getElem?_append_left hlength] at ha
          exact hafter k a hk ha
        · have hk' := lt_length_of_getElem? ha
          rw [List.length_append, List.length_singleton] at hk'
          obtain rfl : k = xs.length := by omega
          rw [hlast] at ha
          rw [← Option.some.inj ha]
          exact hlt

/-- **An item that is closed is never missed**: one after it is open and no deeper. -/
theorem exists_isOpen {a : Item} {k level : Nat} (h : xs[k]? = some a) (hlt : a.1 < level) :
    ∃ e, IsOpen xs e ∧ k ≤ e.2 ∧ e.1 < level := by
  by_cases hafter : ∀ k' b, k < k' → xs[k']? = some b → a.1 < b.1
  · exact ⟨(a.1, k), ⟨a.2, h, hafter⟩, Nat.le_refl k, hlt⟩
  · push Not at hafter
    obtain ⟨k', b, hk', hb, hle⟩ := hafter
    have hlength := lt_length_of_getElem? hb
    obtain ⟨e, he, hke, hlevel⟩ := exists_isOpen hb (Nat.lt_of_le_of_lt hle hlt)
    exact ⟨e, he, by omega, hlevel⟩
termination_by xs.length - k

/-! ## Reading -/

/-- All numbers with a property, in increasing order. -/
def Lists (ks : List Nat) (p : Nat → Prop) : Prop := ks.Pairwise (· < ·) ∧ ∀ k, k ∈ ks ↔ p k

theorem Lists.congr {ks : List Nat} {p q : Nat → Prop} (h : Lists ks p) (hpq : ∀ k, q k ↔ p k) :
    Lists ks q :=
  ⟨h.1, fun k => (h.2 k).trans (hpq k).symm⟩

theorem Lists.nodup {ks : List Nat} {p : Nat → Prop} (h : Lists ks p) : ks.Nodup :=
  h.1.imp Nat.ne_of_lt

/-- One more number is put at the end. -/
theorem Lists.concat {ks : List Nat} {p : Nat → Prop} {n : Nat} (h : Lists ks p)
    (hlt : ∀ k, p k → k < n) : Lists (ks ++ [n]) fun k => p k ∨ k = n := by
  constructor
  · refine List.pairwise_append.mpr ⟨h.1, List.pairwise_singleton _ n, ?_⟩
    intro k hk m hm
    rw [List.mem_singleton.mp hm]
    exact hlt k ((h.2 k).mp hk)
  · intro k
    rw [List.mem_append, h.2, List.mem_singleton]

namespace Linked

/-- What is left of the path for a new item to go below. -/
def outer (s : Linked) (x : Item) : List (Nat × Nat) := s.path.dropWhile fun e => decide (x.1 ≤ e.1)

/-- The place of the item that a new one is put below, if there is one. -/
def parent? (s : Linked) (x : Item) : Option Nat := (s.outer x).head?.map Prod.snd

theorem path_add (s : Linked) (x : Item) : (s.add x).path = (x.1, s.entries.size) :: s.outer x := by
  unfold add
  dsimp only
  rw [← outer]
  split
  · next heq => rw [heq]
  · next heq => rw [heq]

theorem roots_add (s : Linked) (x : Item) : (s.add x).roots
    = if s.parent? x = none then s.roots.push s.entries.size else s.roots := by
  unfold add parent?
  dsimp only
  rw [← outer]
  split
  · next heq => rw [heq]; rfl
  · next heq => rw [heq]; rfl

/-- A new item comes last, and its place is noted with the one that it is put below. -/
theorem getElem?_entries_add (hpath : ∀ e ∈ s.path, e.2 < s.entries.size) :
    (s.add x).entries[i]? = if i = s.entries.size then some { level := x.1, text := x.2 }
      else s.entries[i]?.map fun e =>
        if s.parent? x = some i then { e with kids := e.kids.push s.entries.size } else e := by
  have hpush : (s.entries.push { level := x.1, text := x.2 })[i]?
      = if i = s.entries.size then some { level := x.1, text := x.2 } else s.entries[i]? :=
    Array.getElem?_push
  unfold add parent?
  dsimp only
  rw [← outer]
  cases hout : s.outer x with
  | nil =>
      dsimp only [List.head?_nil, Option.map_none]
      rw [hpush]
      simp
  | cons e rest =>
      dsimp only [List.head?_cons, Option.map_some]
      have he : e ∈ s.path := (List.dropWhile_sublist _).subset (by rw [← outer, hout]; simp)
      have hlt := hpath e he
      rw [Array.getElem?_modify, hpush]
      by_cases hi : i = s.entries.size
      · have hne : e.2 ≠ i := by omega
        rw [if_neg hne, if_pos hi, if_pos hi]
      · rw [if_neg hi, if_neg hi]
        by_cases hei : e.2 = i
        · simp [hei]
        · simp [hei]

/-- What is known of some items once they have been read. -/
structure Reads (s : Linked) (xs : List Item) : Prop where
  /-- There is an entry for every item. -/
  size : s.entries.size = xs.length
  /-- An entry has what its item has, -/
  item : ∀ (i : Nat) (e : Entry), s.entries[i]? = some e → xs[i]? = some (e.level, e.text)
  /-- and the places of all items that belong to it. -/
  kids : ∀ (i : Nat) (e : Entry), s.entries[i]? = some e → Lists e.kids.toList fun j => BelongsTo xs j i
  roots : Lists s.roots.toList (IsRoot xs)
  /-- The path holds the open items, -/
  path : ∀ e, e ∈ s.path ↔ IsOpen xs e
  /-- the last one inside. -/
  inside : s.path.Pairwise fun a b => b.2 < a.2

theorem reads_empty : Reads {} [] where
  size := rfl
  item i e h := by simp at h
  kids i e h := by simp at h
  roots := ⟨List.Pairwise.nil, fun k => iff_of_false List.not_mem_nil fun h => Nat.not_lt_zero k h.1⟩
  path e := iff_of_false List.not_mem_nil fun h => Nat.not_lt_zero e.2 h.lt_length
  inside := List.Pairwise.nil

/-- Since levels only get smaller to the outside, all open items that are less deep are left. -/
theorem Reads.outer_eq (h : s.Reads xs) (x : Item) :
    s.outer x = s.path.filter fun e => decide (e.1 < x.1) := by
  have hsorted : s.path.Pairwise fun a b => decide (x.1 ≤ b.1) = true → decide (x.1 ≤ a.1) = true := by
    refine h.inside.imp_of_mem fun {a b} ha hb hab hle => ?_
    have hlevel := ((h.path b).mp hb).level_lt ((h.path a).mp ha) hab
    rw [decide_eq_true_eq] at hle ⊢
    omega
  rw [outer, dropWhile_eq_filter hsorted]
  refine List.filter_congr fun e _ => ?_
  rw [← decide_not, decide_eq_decide]
  exact Nat.not_le

theorem Reads.mem_outer (h : s.Reads xs) {e : Nat × Nat} :
    e ∈ s.outer x ↔ IsOpen xs e ∧ e.1 < x.1 := by
  rw [h.outer_eq, List.mem_filter, decide_eq_true_eq, h.path]

theorem Reads.pairwise_outer (h : s.Reads xs) : (s.outer x).Pairwise fun a b => b.2 < a.2 := by
  rw [h.outer_eq]
  exact h.inside.filter _

/-- The inner end of what is left of the path is the last item that is less deep. -/
theorem Reads.belongsTo_of_outer (h : s.Reads xs) {e : Nat × Nat} {rest : List (Nat × Nat)}
    (hout : s.outer x = e :: rest) : BelongsTo (xs ++ [x]) xs.length e.2 := by
  have hmem : e ∈ s.outer x := by rw [hout]; exact List.mem_cons_self
  obtain ⟨hopen, hlt⟩ := h.mem_outer.mp hmem
  have hlength := hopen.lt_length
  obtain ⟨text, htext, _⟩ := hopen
  refine ⟨⟨hlength, (shallower_last_iff hlength).mpr ⟨_, htext, hlt⟩⟩, ?_⟩
  intro k hk
  obtain ⟨hk, hshallower⟩ := hk
  obtain ⟨a, ha, hlevel⟩ := (shallower_last_iff hk).mp hshallower
  obtain ⟨e', hopen', hke, hlt'⟩ := exists_isOpen ha hlevel
  have hmem' : e' ∈ e :: rest := by rw [← hout]; exact h.mem_outer.mpr ⟨hopen', hlt'⟩
  have hsorted : (e :: rest).Pairwise fun a b => b.2 < a.2 := by rw [← hout]; exact h.pairwise_outer
  rcases List.mem_cons.mp hmem' with heq | hrest
  · rw [heq] at hke
    exact hke
  · have hinside := (List.pairwise_cons.mp hsorted).1 e' hrest
    omega

theorem Reads.isRoot_of_outer (h : s.Reads xs) (hout : s.outer x = []) :
    IsRoot (xs ++ [x]) xs.length := by
  refine ⟨by rw [List.length_append]; exact Nat.lt_succ_self _, fun k hk hshallower => ?_⟩
  obtain ⟨a, ha, hlevel⟩ := (shallower_last_iff hk).mp hshallower
  obtain ⟨e, hopen, _, hlt⟩ := exists_isOpen ha hlevel
  have hmem : e ∈ s.outer x := h.mem_outer.mpr ⟨hopen, hlt⟩
  rw [hout] at hmem
  exact List.not_mem_nil hmem

/-- **A new item is put below the one that it belongs to.** -/
theorem Reads.parent?_eq_some_iff (h : s.Reads xs) :
    s.parent? x = some i ↔ BelongsTo (xs ++ [x]) xs.length i := by
  unfold parent?
  cases hout : s.outer x with
  | nil =>
      exact iff_of_false (fun heq => by cases heq) fun hi => hi.not_isRoot (h.isRoot_of_outer hout)
  | cons e rest =>
      have he := h.belongsTo_of_outer hout
      rw [List.head?_cons, Option.map_some, Option.some.injEq]
      constructor
      · intro heq
        rw [← heq]
        exact he
      · intro hi
        exact IsGreatest.unique he hi

theorem Reads.parent?_eq_none_iff (h : s.Reads xs) :
    s.parent? x = none ↔ IsRoot (xs ++ [x]) xs.length := by
  cases hout : s.outer x with
  | nil =>
      refine iff_of_true ?_ (h.isRoot_of_outer hout)
      rw [parent?, hout]
      rfl
  | cons e rest =>
      refine iff_of_false ?_ (h.belongsTo_of_outer hout).not_isRoot
      rw [parent?, hout]
      exact Option.some_ne_none e.2

/-- The new place is noted with the item that it belongs to and with no other. -/
theorem Reads.lists_kids (h : s.Reads xs) {ks : List Nat} (hks : Lists ks fun j => BelongsTo xs j i) :
    Lists (if s.parent? x = some i then ks ++ [xs.length] else ks)
      fun j => BelongsTo (xs ++ [x]) j i := by
  by_cases hi : s.parent? x = some i
  · rw [if_pos hi]
    rw [h.parent?_eq_some_iff] at hi
    refine (hks.concat fun j hj => hj.lt_length).congr fun j => ?_
    rw [belongsTo_append_iff]
    exact or_congr_right (and_iff_left hi)
  · rw [if_neg hi]
    rw [h.parent?_eq_some_iff] at hi
    refine hks.congr fun j => ?_
    rw [belongsTo_append_iff]
    exact or_iff_left fun hj => hi hj.2

theorem Reads.lists_roots (h : s.Reads xs) :
    Lists (s.add x).roots.toList (IsRoot (xs ++ [x])) := by
  rw [roots_add]
  by_cases hroot : s.parent? x = none
  · rw [if_pos hroot, Array.toList_push, h.size]
    rw [h.parent?_eq_none_iff] at hroot
    refine (h.roots.concat fun j hj => hj.1).congr fun j => ?_
    rw [isRoot_append_iff]
    exact or_congr_right (and_iff_left hroot)
  · rw [if_neg hroot]
    rw [h.parent?_eq_none_iff] at hroot
    refine h.roots.congr fun j => ?_
    rw [isRoot_append_iff]
    exact or_iff_left fun hj => hroot hj.2

/-- Each entry has its item, and the places of what belongs to it, with the new one among them. -/
theorem Reads.entry_add (h : s.Reads xs) {e' : Entry} (he' : (s.add x).entries[i]? = some e') :
    (xs ++ [x])[i]? = some (e'.level, e'.text)
      ∧ Lists e'.kids.toList fun j => BelongsTo (xs ++ [x]) j i := by
  have hpath : ∀ e ∈ s.path, e.2 < s.entries.size := by
    intro e he
    rw [h.size]
    exact ((h.path e).mp he).lt_length
  rw [getElem?_entries_add hpath, h.size] at he'
  by_cases hi : i = xs.length
  · rw [if_pos hi] at he'
    rw [hi, ← Option.some.inj he']
    refine ⟨List.getElem?_concat_length, List.Pairwise.nil, fun j => ?_⟩
    -- nothing comes after the new item yet
    refine iff_of_false List.not_mem_nil fun hj => ?_
    have hlt := hj.lt
    have hlength := hj.lt_length
    rw [List.length_append, List.length_singleton] at hlength
    omega
  · rw [if_neg hi, Option.map_eq_some_iff] at he'
    obtain ⟨e, he, heq⟩ := he'
    have hitem := h.item i e he
    have hkids := h.lists_kids (x := x) (h.kids i e he)
    rw [List.getElem?_append_left (lt_length_of_getElem? hitem), hitem, ← heq]
    by_cases hparent : s.parent? x = some i
    · rw [if_pos hparent] at hkids ⊢
      exact ⟨rfl, by rw [Array.toList_push]; exact hkids⟩
    · rw [if_neg hparent] at hkids ⊢
      exact ⟨rfl, hkids⟩

theorem size_entries_add (s : Linked) (x : Item) :
    (s.add x).entries.size = s.entries.size + 1 := by
  unfold add
  dsimp only
  split <;> simp

/-- **Reading one more item.** -/
theorem Reads.add (h : s.Reads xs) (x : Item) : (s.add x).Reads (xs ++ [x]) where
  size := by rw [size_entries_add, h.size, List.length_append, List.length_singleton]
  item _ _ he := (h.entry_add he).1
  kids _ _ he := (h.entry_add he).2
  roots := h.lists_roots
  path e := by rw [path_add, List.mem_cons, h.mem_outer, isOpen_append_iff, h.size]
  inside := by
    rw [path_add, h.size]
    refine List.pairwise_cons.mpr ⟨fun e he => ?_, h.pairwise_outer⟩
    exact (h.mem_outer.mp he).1.lt_length

/-- **Reading a list.** -/
theorem reads_foldl (xs : List Item) : (xs.foldl Linked.add {}).Reads xs := by
  induction xs using List.reverseRecOn with
  | nil => exact reads_empty
  | append_singleton xs x ih =>
      rw [List.foldl_append]
      exact ih.add x

end Linked

/-! ## Building -/

/-- What is there when the entries from a place on have been built. -/
def builtFrom (entries : Array Entry) (i : Nat) : Array (Option Node) :=
  buildFrom (Array.replicate entries.size none) (entries.toList.zipIdx.drop i)

/-- The node that is built of the entry at a place. -/
def Linked.node (s : Linked) (j : Nat) : Option Node := (builtFrom s.entries j)[j]?.join

/-- The node that is made from the item at a place: the one that is built in this place. -/
def nodeAt (xs : List Item) (j : Nat) : Option Node := (xs.foldl Linked.add {}).node j

theorem builtFrom_eq_build {entries : Array Entry} {e : Entry} (h : entries[i]? = some e) :
    builtFrom entries i = e.build i (builtFrom entries (i + 1)) := by
  obtain ⟨hlt, rfl⟩ := Array.getElem?_eq_some_iff.mp h
  have hlength : i < entries.toList.zipIdx.length := by
    rw [List.length_zipIdx, Array.length_toList]
    exact hlt
  rw [builtFrom, List.drop_eq_getElem_cons hlength, buildFrom, List.foldr_cons, ← buildFrom,
    List.getElem_zipIdx, Nat.zero_add]
  rfl

theorem size_takeAll (built : Array (Option Node)) (ks : List Nat) :
    (takeAll built ks).2.size = built.size := by
  induction ks generalizing built with
  | nil => rfl
  | cons k ks ih =>
      rw [takeAll, ih, Array.size_setIfInBounds]

theorem size_buildFrom (built : Array (Option Node)) (es : List (Entry × Nat)) :
    (buildFrom built es).size = built.size := by
  induction es with
  | nil => rfl
  | cons e es ih =>
      rw [buildFrom, List.foldr_cons, ← buildFrom, Entry.build, Array.size_setIfInBounds, size_takeAll,
        ih]

theorem size_builtFrom (entries : Array Entry) (i : Nat) :
    (builtFrom entries i).size = entries.size := by
  rw [builtFrom, size_buildFrom, Array.size_replicate]

/-- What is not taken stays. -/
theorem getElem?_takeAll_of_notMem {built : Array (Option Node)} {ks : List Nat} (h : k ∉ ks) :
    (takeAll built ks).2[k]? = built[k]? := by
  induction ks generalizing built with
  | nil => rfl
  | cons k' ks ih =>
      rw [List.mem_cons, not_or] at h
      rw [takeAll, ih h.2, Array.getElem?_setIfInBounds_ne (Ne.symm h.1)]

/-- What is taken from different places is what was there. -/
theorem map_some_takeAll {built : Array (Option Node)} {ks : List Nat} {f : Nat → Option Node}
    (hnodup : ks.Nodup) (h : ∀ k ∈ ks, built[k]? = some (f k) ∧ (f k).isSome = true) :
    (takeAll built ks).1.map some = ks.map f := by
  induction ks generalizing built with
  | nil => rfl
  | cons k ks ih =>
      obtain ⟨hk, hks⟩ := List.nodup_cons.mp hnodup
      rw [List.forall_mem_cons] at h
      obtain ⟨n, hn⟩ := Option.isSome_iff_exists.mp h.1.2
      have hrest : ∀ k' ∈ ks, (built.setIfInBounds k none)[k']? = some (f k')
          ∧ (f k').isSome = true := by
        intro k' hk'
        have hne : k ≠ k' := fun heq => hk (heq ▸ hk')
        rw [Array.getElem?_setIfInBounds_ne hne]
        exact h.2 k' hk'
      rw [takeAll, List.map_append, ih hks hrest, h.1.1, hn, List.map_cons, hn]
      rfl

namespace Linked

theorem getElem?_builtFrom_self (hi : i < s.entries.size) :
    (builtFrom s.entries i)[i]? = some (s.node i) := by
  have hlt : i < (builtFrom s.entries i).size := by rw [size_builtFrom]; exact hi
  rw [node, Array.getElem?_eq_getElem hlt, Option.join_some]

theorem node_eq {e : Entry} (he : s.entries[i]? = some e) : s.node i
    = some ⟨e.level, e.text, (takeAll (builtFrom s.entries (i + 1)) e.kids.toList).1⟩ := by
  have hlt : i < (takeAll (builtFrom s.entries (i + 1)) e.kids.toList).2.size := by
    rw [size_takeAll, size_builtFrom]
    exact (Array.getElem?_eq_some_iff.mp he).1
  rw [node, builtFrom_eq_build he, Entry.build, Array.getElem?_setIfInBounds_self_of_lt hlt,
    Option.join_some]

/-- **A node stays in its place until the item that it belongs to is built.** -/
theorem Reads.getElem?_builtFrom (h : s.Reads xs) (hik : i ≤ k) (hk : k < xs.length)
    (hbelongs : ∀ p, BelongsTo xs k p → p < i) : (builtFrom s.entries i)[k]? = some (s.node k) := by
  obtain ⟨d, rfl⟩ := Nat.exists_eq_add_of_le hik
  induction d generalizing i with
  | zero => exact getElem?_builtFrom_self (by rw [h.size]; exact hk)
  | succ d ih =>
      have hi : i < s.entries.size := by rw [h.size]; omega
      have he : s.entries[i]? = some s.entries[i] := Array.getElem?_eq_getElem hi
      -- it is not among those that the item at `i` takes
      have hkids : i + (d + 1) ∉ s.entries[i].kids.toList := by
        intro hmem
        have := hbelongs i (((h.kids i _ he).2 _).mp hmem)
        omega
      have hshift : i + (d + 1) = i + 1 + d := by omega
      rw [builtFrom_eq_build he, Entry.build, Array.getElem?_setIfInBounds_ne (by omega),
        getElem?_takeAll_of_notMem hkids]
      rw [hshift] at hk hbelongs ⊢
      refine ih (by omega) hk fun p hp => ?_
      have := hbelongs p hp
      omega

theorem Reads.isSome_node (h : s.Reads xs) (hk : k < xs.length) : (s.node k).isSome = true := by
  have he : s.entries[k]? = some _ := Array.getElem?_eq_getElem (by rw [h.size]; exact hk)
  rw [node_eq he]
  rfl

/-- The nodes below a node are those of the items that belong to its item. -/
theorem Reads.kids_node (h : s.Reads xs) {e : Entry} (he : s.entries[i]? = some e) :
    (takeAll (builtFrom s.entries (i + 1)) e.kids.toList).1.map some = e.kids.toList.map s.node := by
  refine map_some_takeAll (h.kids i e he).nodup fun k hk => ?_
  have hki := ((h.kids i e he).2 k).mp hk
  refine ⟨h.getElem?_builtFrom hki.lt hki.lt_length fun p hp => ?_, h.isSome_node hki.lt_length⟩
  -- nothing else than the item at `i` takes the node
  have heq : p = i := IsGreatest.unique hp hki
  omega

theorem Reads.roots_node (h : s.Reads xs) :
    (takeAll (build s.entries) s.roots.toList).1.map some = s.roots.toList.map s.node := by
  refine map_some_takeAll h.roots.nodup fun k hk => ?_
  have hroot := (h.roots.2 k).mp hk
  refine ⟨?_, h.isSome_node hroot.1⟩
  exact h.getElem?_builtFrom (Nat.zero_le k) hroot.1 fun p hp => absurd hroot hp.not_isRoot

end Linked

/-! ## Forests -/

/-- Some nodes are those made from all items with a property, in the order of the items. -/
def AreNodesOf (xs : List Item) (ns : List Node) (p : Nat → Prop) : Prop :=
  ∃ js, Lists js p ∧ ns.map some = js.map (nodeAt xs)

/--
**Nodes hang together as the levels of their items say.** A node is made from every item. Below it are
the nodes made from the items that belong to this one, those for which it is the last one before them
with a smaller level, and the roots are the nodes made from the items before which no level is smaller;
all are in the order of the list.
-/
theorem forest_belongs (xs : List Item) :
    (∀ i x, xs[i]? = some x → ∃ n, nodeAt xs i = some n ∧ n.level = x.1 ∧ n.text = x.2
        ∧ AreNodesOf xs n.kids fun j => BelongsTo xs j i)
      ∧ AreNodesOf xs (forest xs) (IsRoot xs) := by
  have h := Linked.reads_foldl xs
  constructor
  · intro i x hx
    have hi : i < (xs.foldl Linked.add {}).entries.size := by
      rw [h.size]
      exact lt_length_of_getElem? hx
    have he : (xs.foldl Linked.add {}).entries[i]? = some _ := Array.getElem?_eq_getElem hi
    have hitem := h.item i _ he
    rw [hx, Option.some.injEq] at hitem
    refine ⟨_, Linked.node_eq he, ?_, ?_, _, h.kids i _ he, h.kids_node he⟩
    · rw [hitem]
    · rw [hitem]
  · exact ⟨_, h.roots, h.roots_node⟩

end Sheetwise.Diagram
