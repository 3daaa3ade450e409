import Sheetwise.Fault

/-!
# Sorted maps

A finite map kept as the list of its entries in increasing order of their keys. The sparse parts of
a sheet are such maps: they are small, written in order and read in order, and the order of the
entries is part of what is written out. Because the entries are strictly sorted, a map is determined
by its list, and a range of keys is a stretch of it.
-/

namespace Sheetwise

/-- A strict total order on keys. -/
class KeyOrder (κ : Type) [LT κ] : Prop where
  irrefl : ∀ a : κ, ¬ a < a
  trans : ∀ {a b c : κ}, a < b → b < c → a < c
  total : ∀ a b : κ, a < b ∨ a = b ∨ b < a

instance : KeyOrder Nat where
  irrefl := Nat.lt_irrefl
  trans := Nat.lt_trans
  total := Nat.lt_trichotomy

instance : KeyOrder String where
  irrefl := String.lt_irrefl
  trans := String.lt_trans
  total a b := by
    by_cases h : a < b
    · exact Or.inl h
    · by_cases h' : b < a
      · exact Or.inr (Or.inr h')
      · exact Or.inr (Or.inl (String.le_antisymm (String.not_lt.mp h') (String.not_lt.mp h)))

/-- A map whose entries are listed in strictly increasing order of their keys. -/
structure SortedMap (κ α : Type) [LT κ] where
  entries : List (κ × α)
  sorted : entries.Pairwise fun a b => a.1 < b.1

namespace SortedMap

variable {κ α β : Type} [LT κ]

@[ext]
theorem ext {m m' : SortedMap κ α} (h : m.entries = m'.entries) : m = m' := by
  cases m; cases m'; cases h; rfl

/-- The map without entries. -/
def empty : SortedMap κ α := ⟨[], .nil⟩

instance : EmptyCollection (SortedMap κ α) := ⟨empty⟩
instance : Inhabited (SortedMap κ α) := ⟨empty⟩

instance [DecidableEq κ] [DecidableEq α] : DecidableEq (SortedMap κ α) := fun m m' =>
  if h : m.entries = m'.entries then isTrue (ext h)
  else isFalse fun e => h (congrArg entries e)

/-- The entries, in order. -/
def toList (m : SortedMap κ α) : List (κ × α) := m.entries

/-- The keys, in order. -/
def keys (m : SortedMap κ α) : List κ := m.entries.map Prod.fst

/-- The values, in the order of their keys. -/
def values (m : SortedMap κ α) : List α := m.entries.map Prod.snd

/-- The number of entries. -/
def size (m : SortedMap κ α) : Nat := m.entries.length

/-- Whether there are no entries. -/
def isEmpty (m : SortedMap κ α) : Bool := m.entries.isEmpty

/-- The entries that satisfy a test. -/
def filter (m : SortedMap κ α) (p : κ → α → Bool) : SortedMap κ α :=
  ⟨m.entries.filter fun e => p e.1 e.2, m.sorted.filter _⟩

/-- The map with every value replaced by its image. -/
def map (f : κ → α → β) (m : SortedMap κ α) : SortedMap κ β :=
  ⟨m.entries.map fun e => (e.1, f e.1 e.2), by
    rw [List.pairwise_map]; exact m.sorted⟩

section Order

variable [DecidableLT κ]

/-- The value stored under a key in a list of entries. -/
def lookup (k : κ) : List (κ × α) → Option α
  | [] => none
  | (k', v) :: rest => if k' < k then lookup k rest else if k < k' then none else some v

/-- The entries with one put at its place, replacing the one of the same key. -/
def insertEntry (k : κ) (v : α) : List (κ × α) → List (κ × α)
  | [] => [(k, v)]
  | (k', v') :: rest =>
    if k' < k then (k', v') :: insertEntry k v rest
    else if k < k' then (k, v) :: (k', v') :: rest
    else (k, v) :: rest

/-- The stretch that begins at the first key not below `lo` and ends before the first key above `hi`. -/
def between (m : SortedMap κ α) (lo hi : κ) : SortedMap κ α where
  entries := (m.entries.dropWhile fun e => decide (e.1 < lo)).takeWhile fun e => !decide (hi < e.1)
  sorted := m.sorted.sublist ((List.takeWhile_sublist _).trans (List.dropWhile_sublist _))

/--
The entries with keys from `lo` to `hi`, both included. A map that has entries has no stretch of them
that runs backwards, and to ask for one is a fault.
-/
def range (m : SortedMap κ α) (lo hi : κ) : Checked (SortedMap κ α) :=
  if hi < lo ∧ m.isEmpty = false then .error .invertedRange else .ok (m.between lo hi)

theorem range_of_not_lt (m : SortedMap κ α) {lo hi : κ} (h : ¬ hi < lo) :
    m.range lo hi = .ok (m.between lo hi) :=
  if_neg fun hback => h hback.1

/-- Only a map without entries can be asked for a stretch that runs backwards. -/
theorem range_eq_ok_iff {m m' : SortedMap κ α} {lo hi : κ} :
    m.range lo hi = .ok m' ↔ (¬ hi < lo ∨ m.isEmpty = true) ∧ m.between lo hi = m' := by
  unfold range
  split
  · next hback =>
    refine iff_of_false (fun h => nomatch h) fun h => ?_
    rcases h.1 with hle | hempty
    · exact hle hback.1
    · rw [hback.2] at hempty
      cases hempty
  · next hok =>
    rw [Except.ok.injEq]
    refine (and_iff_right ?_).symm
    by_cases hback : hi < lo
    · exact .inr (eq_true_of_ne_false fun hne => hok ⟨hback, hne⟩)
    · exact .inl hback

theorem mem_insertEntry {k : κ} {v : α} {e : κ × α} :
    ∀ {es : List (κ × α)}, e ∈ insertEntry k v es → e = (k, v) ∨ e ∈ es
  | [], h => Or.inl (List.mem_singleton.mp h)
  | (k', v') :: rest, h => by
    unfold insertEntry at h
    split at h
    · rcases List.mem_cons.mp h with h | h
      · exact Or.inr (h ▸ List.mem_cons_self)
      · exact (mem_insertEntry h).imp id (List.mem_cons_of_mem _)
    · split at h
      · exact List.mem_cons.mp h
      · exact (List.mem_cons.mp h).imp id (List.mem_cons_of_mem _)

variable [KeyOrder κ]

theorem pairwise_insertEntry (k : κ) (v : α) :
    ∀ {es : List (κ × α)}, es.Pairwise (fun a b => a.1 < b.1) →
      (insertEntry k v es).Pairwise fun a b => a.1 < b.1
  | [], _ => List.pairwise_singleton _ _
  | (k', v') :: rest, h => by
    obtain ⟨head, tail⟩ := List.pairwise_cons.mp h
    unfold insertEntry
    split
    · refine List.pairwise_cons.mpr ⟨fun e he => ?_, pairwise_insertEntry k v tail⟩
      rcases mem_insertEntry he with rfl | he
      · assumption
      · exact head e he
    · split
      · rename_i below
        refine List.pairwise_cons.mpr ⟨fun e he => ?_, h⟩
        rcases List.mem_cons.mp he with rfl | he
        · exact below
        · exact KeyOrder.trans below (head e he)
      · rename_i notAbove notBelow
        have same : k = k' := by
          rcases KeyOrder.total k k' with h | h | h
          · exact absurd h notBelow
          · exact h
          · exact absurd h notAbove
        exact List.pairwise_cons.mpr ⟨fun e he => same ▸ head e he, tail⟩

/-- The value stored under a key. -/
def get? (m : SortedMap κ α) (k : κ) : Option α := lookup k m.entries

/-- Whether a key has a value. -/
def contains (m : SortedMap κ α) (k : κ) : Bool := (m.get? k).isSome

/-- The map with a value stored under a key, in place of any earlier one. -/
def insert (m : SortedMap κ α) (k : κ) (v : α) : SortedMap κ α :=
  ⟨insertEntry k v m.entries, pairwise_insertEntry k v m.sorted⟩

/-- The map without a key. -/
def erase (m : SortedMap κ α) (k : κ) : SortedMap κ α :=
  m.filter fun k' _ => decide (k' < k) || decide (k < k')

/-- The map of a list of entries, a later one replacing an earlier one of the same key. -/
def ofList (es : List (κ × α)) : SortedMap κ α :=
  es.foldl (fun m e => m.insert e.1 e.2) empty

end Order

/-- The map with one value stored under each of `count` keys from `first` on. -/
def fill {α : Type} (m : SortedMap Nat α) (first count : Nat) (v : α) : SortedMap Nat α where
  entries := m.entries.filter (fun e => decide (e.1 < first)) ++
    (List.range' first count).map (fun k => (k, v)) ++
    m.entries.filter fun e => decide (first + count ≤ e.1)
  sorted := by
    refine List.pairwise_append.mpr ⟨List.pairwise_append.mpr ⟨m.sorted.filter _, ?_, ?_⟩,
      m.sorted.filter _, ?_⟩
    · rw [List.pairwise_map]
      exact List.pairwise_lt_range'
    · intro a ha b hb
      obtain ⟨k, hk, rfl⟩ := List.mem_map.mp hb
      have below := of_decide_eq_true (List.mem_filter.mp ha).2
      have inside := List.mem_range'_1.mp hk
      omega
    · intro a ha b hb
      have above := of_decide_eq_true (List.mem_filter.mp hb).2
      rcases List.mem_append.mp ha with ha | ha
      · have below := of_decide_eq_true (List.mem_filter.mp ha).2
        omega
      · obtain ⟨k, hk, rfl⟩ := List.mem_map.mp ha
        have inside := List.mem_range'_1.mp hk
        omega

end SortedMap

/-- A finite set kept in increasing order. -/
abbrev SortedSet (κ : Type) [LT κ] := SortedMap κ Unit

namespace SortedSet

variable {κ : Type} [LT κ] [DecidableLT κ] [KeyOrder κ]

/-- The set with one more element. -/
def insert (s : SortedSet κ) (k : κ) : SortedSet κ := SortedMap.insert s k ()

/-- The set of the elements of a list. -/
def ofList (ks : List κ) : SortedSet κ :=
  ks.foldl insert SortedMap.empty

end SortedSet

end Sheetwise
