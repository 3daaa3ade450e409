import Mathlib.Data.List.Chain
import Mathlib.Data.List.TakeWhile
import Sheetwise.Diagram

/-!
# Lists of items and their forests

A forest can be told from its list of items if siblings come with levels that never increase and every
node is deeper than the one it belongs to. A list has exactly one such forest, and reading the list
gives it.

Reading is followed item by item. What is known after some items is laid out from the forest of these
items alone: the entries are its nodes in preorder, with their places counted up, and the path to the
last item runs down its right edge. One more item grows the forest at that edge. Only then are the nodes
built, from the back, and building undoes the laying out.
-/

namespace Sheetwise.Diagram

/--
Siblings come with levels that never increase from one to the next, every node has a greater level than
the one it belongs to, and so it goes on below every node.
-/
inductive Canonical : List Node → Prop where
  | intro {ns : List Node} (siblings : ns.IsChain fun a b => b.level ≤ a.level)
      (deeper : ∀ n ∈ ns, ∀ kid ∈ n.kids, n.level < kid.level)
      (below : ∀ n ∈ ns, Canonical n.kids) : Canonical ns

theorem Canonical.nil : Canonical [] :=
  .intro .nil (by simp) (by simp)

theorem canonical_cons_iff {n : Node} {ns : List Node} :
    Canonical (n :: ns) ↔ (∀ m ∈ ns.head?, m.level ≤ n.level)
      ∧ (∀ kid ∈ n.kids, n.level < kid.level) ∧ Canonical n.kids ∧ Canonical ns := by
  constructor
  · rintro ⟨siblings, deeper, below⟩
    rw [List.isChain_cons] at siblings
    rw [List.forall_mem_cons] at deeper below
    exact ⟨siblings.1, deeper.1, below.1, .intro siblings.2 deeper.2 below.2⟩
  · rintro ⟨head, deeper, below, ⟨siblings, deeper', below'⟩⟩
    exact .intro (List.isChain_cons.mpr ⟨head, siblings⟩) (List.forall_mem_cons.mpr ⟨deeper, deeper'⟩)
      (List.forall_mem_cons.mpr ⟨below, below'⟩)

/-! ## Listing -/

mutual

/-- The items of a node and all below it, in preorder. -/
def Node.preorder : Node → List Item
  | ⟨level, text, kids⟩ => (level, text) :: preorder kids

/-- The items of a forest, in preorder. -/
def preorder : List Node → List Item
  | [] => []
  | n :: ns => n.preorder ++ preorder ns

end

theorem Node.preorder_eq (n : Node) : n.preorder = (n.level, n.text) :: Diagram.preorder n.kids := by
  cases n; rw [Node.preorder]

theorem preorder_cons (n : Node) (ns : List Node) : preorder (n :: ns) = n.preorder ++ preorder ns := by
  rw [preorder]

theorem preorder_append (ms ns : List Node) : preorder (ms ++ ns) = preorder ms ++ preorder ns := by
  induction ms with
  | nil => rfl
  | cons m ms ih => rw [List.cons_append, preorder, ih, preorder, List.append_assoc]

/-- What a stack of nodes is listed as is their items in preorder. -/
theorem items_eq_preorder (ns : List Node) : items ns = preorder ns := by
  fun_induction items ns with
  | case1 => rfl
  | case2 n rest ih =>
      rw [ih, preorder_append, preorder, n.preorder_eq, List.cons_append]

theorem mem_preorder_iff {x : Item} {ns : List Node} :
    x ∈ preorder ns ↔ ∃ n ∈ ns, x ∈ n.preorder := by
  induction ns with
  | nil => simp [preorder]
  | cons n ns ih => simp [preorder, ih]

/-- What is below siblings that are deeper than a level is deeper, too. -/
theorem lt_of_mem_preorder {l : Nat} {ns : List Node} (hc : Canonical ns)
    (h : ∀ n ∈ ns, l < n.level) : ∀ x ∈ preorder ns, l < x.1 := by
  induction hc generalizing l with
  | @intro ns _ deeper _ ih =>
      intro x hx
      obtain ⟨n, hn, hx⟩ := mem_preorder_iff.mp hx
      rw [n.preorder_eq] at hx
      rcases List.mem_cons.mp hx with rfl | hx
      · exact h n hn
      · exact ih n hn (fun kid hk => Nat.lt_trans (h n hn) (deeper n hn kid hk)) x hx

/-- The items below the first node of a forest are those up to the first one that is not deeper. -/
theorem preorder_split {n : Node} {ns : List Node} (hc : Canonical (n :: ns)) :
    preorder n.kids = (preorder n.kids ++ preorder ns).takeWhile (fun x => decide (n.level < x.1))
      ∧ preorder ns = (preorder n.kids ++ preorder ns).dropWhile fun x => decide (n.level < x.1) := by
  obtain ⟨head, deeper, below, _⟩ := canonical_cons_iff.mp hc
  have hbelow : ∀ x ∈ preorder n.kids, decide (n.level < x.1) = true := fun x hx =>
    decide_eq_true (lt_of_mem_preorder below deeper x hx)
  rw [List.takeWhile_append_of_pos hbelow, List.dropWhile_append_of_pos hbelow]
  cases ns with
  | nil => simp [preorder]
  | cons m ns =>
      have hstop : ¬ n.level < m.level := Nat.not_lt.mpr (head m rfl)
      rw [preorder, m.preorder_eq, List.cons_append, List.takeWhile_cons_of_neg (by simpa using hstop),
        List.dropWhile_cons_of_neg (by simpa using hstop), List.append_nil]
      exact ⟨rfl, rfl⟩

/-- **A list has at most one canonical forest.** -/
theorem eq_of_preorder_eq {ms ns : List Node} (hm : Canonical ms) (hn : Canonical ns)
    (h : preorder ms = preorder ns) : ms = ns := by
  match ms, ns with
  | [], [] => rfl
  | [], n :: ns => rw [preorder, preorder, n.preorder_eq] at h; cases h
  | m :: ms, [] => rw [preorder, preorder, m.preorder_eq] at h; cases h
  | ⟨level, text, kids⟩ :: ms, ⟨level', text', kids'⟩ :: ns =>
      simp only [preorder, Node.preorder, List.cons_append, List.cons.injEq, Prod.mk.injEq] at h
      obtain ⟨⟨rfl, rfl⟩, hrest⟩ := h
      have hms := preorder_split hm
      have hns := preorder_split hn
      obtain ⟨_, _, hkm, hm'⟩ := canonical_cons_iff.mp hm
      obtain ⟨_, _, hkn, hn'⟩ := canonical_cons_iff.mp hn
      simp only [hrest] at hms hns
      obtain rfl : kids = kids' := eq_of_preorder_eq hkm hkn (hms.1.trans hns.1.symm)
      obtain rfl : ms = ns := eq_of_preorder_eq hm' hn' (hms.2.trans hns.2.symm)
      rfl
termination_by sizeOf ms

/-! ## One more item -/

/-- The forest with one more item, below the deepest node on its right edge that is less deep. -/
def grow (x : Item) : List Node → List Node
  | [] => [⟨x.1, x.2, []⟩]
  | [⟨level, text, kids⟩] =>
    if level < x.1 then [⟨level, text, grow x kids⟩] else [⟨level, text, kids⟩, ⟨x.1, x.2, []⟩]
  | n :: m :: ns => n :: grow x (m :: ns)

theorem preorder_grow (x : Item) (ns : List Node) : preorder (grow x ns) = preorder ns ++ [x] := by
  fun_induction grow x ns with
  | case1 => rfl
  | case2 level text kids _ ih => simp [preorder, Node.preorder, ih]
  | case3 level text kids _ => simp [preorder, Node.preorder]
  | case4 n m ns ih => rw [preorder, ih, preorder_cons n, List.append_assoc]

/-- The roots of a grown forest are those it had, except that there may be one more at the end. -/
theorem head?_grow (x : Item) (m : Node) (ns : List Node) :
    (grow x (m :: ns)).head?.map Node.level = some m.level := by
  cases ns with
  | nil =>
      cases m
      rw [grow]
      split <;> rfl
  | cons m' ns => rw [grow]; rfl

theorem level_of_mem_grow {x : Item} {ns : List Node} {k : Node} (h : k ∈ grow x ns) :
    k.level = x.1 ∨ ∃ n ∈ ns, k.level = n.level := by
  fun_induction grow x ns with
  | case1 => rw [List.mem_singleton.mp h]; exact .inl rfl
  | case2 level text kids _ _ =>
      rw [List.mem_singleton.mp h]
      exact .inr ⟨_, List.mem_singleton_self _, rfl⟩
  | case3 level text kids _ =>
      rcases List.mem_pair.mp h with rfl | rfl
      · exact .inr ⟨_, List.mem_singleton_self _, rfl⟩
      · exact .inl rfl
  | case4 n m ns ih =>
      rcases List.mem_cons.mp h with rfl | h
      · exact .inr ⟨k, List.mem_cons_self, rfl⟩
      · exact (ih h).imp_right fun ⟨n', hn', he⟩ => ⟨n', List.mem_cons_of_mem _ hn', he⟩

theorem canonical_grow (x : Item) {ns : List Node} (hc : Canonical ns) : Canonical (grow x ns) := by
  fun_induction grow x ns with
  | case1 => exact canonical_cons_iff.mpr ⟨by simp, by simp, .nil, .nil⟩
  | case2 level text kids hlt ih =>
      obtain ⟨_, deeper, below, _⟩ := canonical_cons_iff.mp hc
      refine canonical_cons_iff.mpr ⟨by simp, ?_, ih below, .nil⟩
      intro kid hk
      rcases level_of_mem_grow hk with he | ⟨kid', hk', he⟩
      · rw [he]; exact hlt
      · rw [he]; exact deeper kid' hk'
  | case3 level text kids hle =>
      obtain ⟨_, deeper, below, _⟩ := canonical_cons_iff.mp hc
      refine canonical_cons_iff.mpr ⟨by simpa using hle, deeper, below, ?_⟩
      exact canonical_cons_iff.mpr ⟨by simp, by simp, .nil, .nil⟩
  | case4 n m ns ih =>
      obtain ⟨head, deeper, below, hrest⟩ := canonical_cons_iff.mp hc
      refine canonical_cons_iff.mpr ⟨?_, deeper, below, ih hrest⟩
      intro k hk
      have hlevel := head?_grow x m ns
      rw [Option.mem_def.mp hk, Option.map_some, Option.some.injEq] at hlevel
      rw [hlevel]
      exact head m rfl

/-! ## Laying out -/

/-- How many nodes there are in a node and below it. -/
def Node.size (n : Node) : Nat := n.preorder.length

theorem length_preorder_cons (n : Node) (ns : List Node) :
    (preorder (n :: ns)).length = n.size + (preorder ns).length := by
  rw [preorder_cons, List.length_append, Node.size]

/-- The places of the roots of a forest that is laid out from a place on. -/
def places (first : Nat) : List Node → List Nat
  | [] => []
  | n :: ns => first :: places (first + n.size) ns

theorem places_cons {first : Nat} (n : Node) (ns : List Node) :
    places first (n :: ns) = first :: places (first + n.size) ns := by
  rw [places]

mutual

/-- The entries of a node and all below it, laid out in preorder from a place on. -/
def Node.layout (first : Nat) : Node → List Entry
  | ⟨level, text, kids⟩ =>
    ⟨level, text, (places (first + 1) kids).toArray⟩ :: layout (first + 1) kids

/-- The entries of a forest, laid out in preorder from a place on. -/
def layout (first : Nat) : List Node → List Entry
  | [] => []
  | n :: ns => n.layout first ++ layout (first + n.size) ns

end

theorem layout_cons {first : Nat} (n : Node) (ns : List Node) :
    layout first (n :: ns) = n.layout first ++ layout (first + n.size) ns := by
  rw [layout]

/-- The path to the last node of a forest, from the inside. -/
def edge (first : Nat) : List Node → List (Nat × Nat)
  | [] => []
  | [⟨level, _, kids⟩] => edge (first + 1) kids ++ [(level, first)]
  | n :: m :: ns => edge (first + n.size) (m :: ns)

mutual

theorem Node.length_layout (first : Nat) : ∀ n : Node, (n.layout first).length = n.size
  | ⟨level, text, kids⟩ => by
      rw [Node.layout, List.length_cons, length_layout, Node.size, Node.preorder, List.length_cons]

theorem length_layout (first : Nat) : ∀ ns : List Node, (layout first ns).length = (preorder ns).length
  | [] => rfl
  | n :: ns => by
      rw [layout, List.length_append, n.length_layout, length_layout, length_preorder_cons]

end

/-- The levels on the path to the last node of a forest are at least those of its roots. -/
theorem lt_of_mem_edge {l first : Nat} {ns : List Node} (hc : Canonical ns)
    (h : ∀ n ∈ ns, l < n.level) : ∀ e ∈ edge first ns, l < e.1 := by
  fun_induction edge first ns generalizing l with
  | case1 => simp
  | case2 first level text kids ih =>
      obtain ⟨_, deeper, below, _⟩ := canonical_cons_iff.mp hc
      have hl : l < level := h _ (List.mem_singleton_self _)
      intro e he
      rcases List.mem_append.mp he with he | he
      · exact hl.trans (ih below deeper e he)
      · rw [List.mem_singleton.mp he]; exact hl
  | case3 first n m ns ih =>
      exact ih (canonical_cons_iff.mp hc).2.2.2 fun k hk => h k (List.mem_cons_of_mem _ hk)

/-- The part of the path to the last node that a new item goes below. -/
def above (x : Item) (first : Nat) (ns : List Node) : List (Nat × Nat) :=
  (edge first ns).dropWhile fun e => decide (x.1 ≤ e.1)

theorem above_single_of_lt {x : Item} {first level : Nat} {text : String} {kids : List Node}
    (h : level < x.1) :
    above x first [⟨level, text, kids⟩] = above x (first + 1) kids ++ [(level, first)] := by
  have hstop : [(level, first)].dropWhile (fun e => decide (x.1 ≤ e.1)) = [(level, first)] :=
    List.dropWhile_cons_of_neg (by simpa using h)
  rw [above, edge, List.dropWhile_append, hstop, above]
  split
  · next he => rw [List.isEmpty_iff.mp he, List.nil_append]
  · rfl

theorem above_single_of_le {x : Item} {first level : Nat} {text : String} {kids : List Node}
    (hc : Canonical [⟨level, text, kids⟩]) (h : x.1 ≤ level) :
    above x first [⟨level, text, kids⟩] = [] := by
  obtain ⟨_, deeper, below, _⟩ := canonical_cons_iff.mp hc
  rw [above, List.dropWhile_eq_nil_iff, edge]
  intro e he
  rcases List.mem_append.mp he with he | he
  · exact decide_eq_true (h.trans (lt_of_mem_edge below deeper e he).le)
  · rw [List.mem_singleton.mp he]; exact decide_eq_true h

theorem grow_ne_nil (x : Item) (ns : List Node) : grow x ns ≠ [] := by
  intro h
  have hlist := preorder_grow x ns
  rw [h] at hlist
  simp [preorder] at hlist

theorem edge_cons {first : Nat} {n : Node} {ns : List Node} (h : ns ≠ []) :
    edge first (n :: ns) = edge (first + n.size) ns := by
  cases ns with
  | nil => exact absurd rfl h
  | cons m ns => rw [edge]

theorem above_cons {x : Item} {first : Nat} {n m : Node} {ns : List Node} :
    above x first (n :: m :: ns) = above x (first + n.size) (m :: ns) := by
  rw [above, edge, above]

/-- The new item is at the end of the path, next to what it goes below. -/
theorem edge_grow (x : Item) (first : Nat) {ns : List Node} (hc : Canonical ns) :
    edge first (grow x ns) = (x.1, first + (preorder ns).length) :: above x first ns := by
  fun_induction grow x ns generalizing first with
  | case1 => simp [edge, above, preorder]
  | case2 level text kids hlt ih =>
      rw [edge, ih (first + 1) (canonical_cons_iff.mp hc).2.2.1, above_single_of_lt hlt]
      simp [preorder, Node.preorder, Nat.add_assoc, Nat.add_comm 1]
  | case3 level text kids hle =>
      rw [above_single_of_le hc (Nat.not_lt.mp hle)]
      simp [edge, preorder, Node.size]
  | case4 n m ns ih =>
      rw [edge_cons (grow_ne_nil _ _), ih _ (canonical_cons_iff.mp hc).2.2.2, above_cons,
        length_preorder_cons n, Nat.add_assoc]

/-- The new item is a root if there is nothing for it to go below. -/
theorem places_grow (x : Item) (first : Nat) {ns : List Node} (hc : Canonical ns) :
    places first (grow x ns) = places first ns
      ++ if above x first ns = [] then [first + (preorder ns).length] else [] := by
  fun_induction grow x ns generalizing first with
  | case1 => simp [places, above, edge, preorder]
  | case2 level text kids hlt ih =>
      rw [above_single_of_lt hlt, if_neg (by simp), List.append_nil]
      simp only [places]
  | case3 level text kids hle =>
      rw [above_single_of_le hc (Nat.not_lt.mp hle), if_pos rfl]
      simp [places, preorder, Node.size]
  | case4 n m ns ih =>
      rw [places, ih _ (canonical_cons_iff.mp hc).2.2.2, above_cons, places_cons n,
        length_preorder_cons n, Nat.add_assoc, List.cons_append]

/-- Notes a place with the entry that a path leads to. -/
def noteAt (place : Nat) (path : List (Nat × Nat)) (entries : List Entry) : List Entry :=
  match path with
  | [] => entries
  | (_, parent) :: _ => entries.modify parent fun e => { e with kids := e.kids.push place }

theorem modify_append_cons {α : Type} (f : α → α) (before after : List α) (a : α) :
    (before ++ a :: after).modify before.length f = before ++ f a :: after := by
  induction before with
  | nil => rfl
  | cons b before ih => simp [ih]

/-- The new item comes last, and is noted with the one that it goes below. -/
theorem layout_grow (x : Item) (before : List Entry) {ns : List Node} (hc : Canonical ns) :
    before ++ layout before.length (grow x ns)
      = noteAt (before.length + (preorder ns).length) (above x before.length ns)
          (before ++ layout before.length ns ++ [{ level := x.1, text := x.2 }]) := by
  generalize hfirst : before.length = first
  fun_induction grow x ns generalizing before first with
  | case1 => simp [layout, Node.layout, places, above, edge, noteAt]
  | case2 level text kids hlt ih =>
      subst hfirst
      have below : Canonical kids := (canonical_cons_iff.mp hc).2.2.1
      have hplaces := places_grow x (before.length + 1) below
      have hkids := fun e : Entry =>
        ih (before ++ [e]) below (before.length + 1) (by simp)
      have hlength : before.length + (preorder [⟨level, text, kids⟩]).length
          = before.length + 1 + (preorder kids).length := by
        simp [preorder, Node.preorder, Nat.add_assoc, Nat.add_comm 1]
      rw [above_single_of_lt hlt, hlength]
      simp only [layout, Node.layout, List.append_nil]
      simp only [List.append_assoc, List.singleton_append] at hkids ⊢
      cases habove : above x (before.length + 1) kids with
      | nil =>
          -- nothing below the node takes the item, so it is noted here
          rw [habove] at hplaces hkids
          rw [if_pos rfl] at hplaces
          have hlast : layout (before.length + 1) (grow x kids)
              = layout (before.length + 1) kids ++ [{ level := x.1, text := x.2 }] := by
            simpa [noteAt] using hkids ⟨level, text, #[]⟩
          rw [List.nil_append, noteAt, hlast, hplaces, List.cons_append, modify_append_cons,
            List.push_toArray]
      | cons e path =>
          -- it is noted further down, and what is noted here stays
          rw [habove] at hplaces hkids
          rw [if_neg (by simp), List.append_nil] at hplaces
          rw [hplaces, hkids, List.cons_append, List.cons_append]
          rfl
  | case3 level text kids hle =>
      subst hfirst
      rw [above_single_of_le hc (Nat.not_lt.mp hle)]
      simp [layout, Node.layout, places, noteAt]
  | case4 n m ns ih =>
      subst hfirst
      have hrest := ih (before ++ n.layout before.length) (canonical_cons_iff.mp hc).2.2.2 _ rfl
      rw [List.length_append, n.length_layout] at hrest
      rw [layout, ← List.append_assoc, hrest, above_cons, length_preorder_cons n,
        Nat.add_assoc, layout_cons n, List.append_assoc before]

/-! ## Reading a list -/

/-- What is known of a list whose forest is given. -/
def linked (ns : List Node) : Linked where
  entries := (layout 0 ns).toArray
  roots := (places 0 ns).toArray
  path := edge 0 ns

/-- **Reading one more item grows the forest by it.** -/
theorem add_linked (x : Item) {ns : List Node} (hc : Canonical ns) :
    (linked ns).add x = linked (grow x ns) := by
  have hsize : (layout 0 ns).toArray.size = 0 + (preorder ns).length := by
    rw [List.size_toArray, length_layout, Nat.zero_add]
  have hlayout := layout_grow x [] hc
  have hplaces := places_grow x 0 hc
  have hedge := edge_grow x 0 hc
  simp only [List.nil_append, List.length_nil] at hlayout
  simp only [linked, Linked.add, hsize, hlayout, hplaces, hedge]
  rw [above]
  cases (edge 0 ns).dropWhile fun e => decide (x.1 ≤ e.1) with
  | nil => simp [noteAt]
  | cons e path => simp [noteAt]

/-- The forest that a list of items grows to. -/
def grown (xs : List Item) : List Node := xs.foldl (fun ns x => grow x ns) []

theorem grown_append (xs : List Item) (x : Item) : grown (xs ++ [x]) = grow x (grown xs) := by
  rw [grown, List.foldl_append]; rfl

theorem canonical_grown (xs : List Item) : Canonical (grown xs) := by
  induction xs using List.reverseRecOn with
  | nil => exact .nil
  | append_singleton xs x ih => rw [grown_append]; exact canonical_grow x ih

theorem preorder_grown (xs : List Item) : preorder (grown xs) = xs := by
  induction xs using List.reverseRecOn with
  | nil => rfl
  | append_singleton xs x ih => rw [grown_append, preorder_grow, ih]

/-- **What is known of a list after reading it is laid out from the forest that it grows to.** -/
theorem foldl_add (xs : List Item) : xs.foldl Linked.add {} = linked (grown xs) := by
  induction xs using List.reverseRecOn with
  | nil => simp [grown, linked, layout, places, edge]
  | append_singleton xs x ih =>
      rw [List.foldl_append, ih, grown_append, ← add_linked x (canonical_grown xs)]
      rfl

/-! ## Building -/

/-- There is room for some nodes from a place on, and nothing is there yet. -/
def Vacant (built : Array (Option Node)) (first count : Nat) : Prop :=
  ∀ k, first ≤ k → k < first + count → built[k]? = some none

/-- The array with the roots of a forest in their places. -/
def fill (first : Nat) (built : Array (Option Node)) : List Node → Array (Option Node)
  | [] => built
  | n :: ns => (fill (first + n.size) built ns).setIfInBounds first (some n)

theorem Node.size_pos (n : Node) : 0 < n.size := by
  rw [Node.size, n.preorder_eq]; exact Nat.succ_pos _

/-- Nothing is put before the first place. -/
theorem getElem?_fill {k first : Nat} (h : k < first) (built : Array (Option Node)) (ns : List Node) :
    (fill first built ns)[k]? = built[k]? := by
  induction ns generalizing first with
  | nil => rfl
  | cons n ns ih =>
      rw [fill, Array.getElem?_setIfInBounds, if_neg (Nat.ne_of_gt h), ih (Nat.lt_add_right _ h)]

theorem setIfInBounds_none {built : Array (Option Node)} {k : Nat} (h : built[k]? = some none) :
    built.setIfInBounds k none = built := by
  refine Array.ext_getElem? fun i => ?_
  rw [Array.getElem?_setIfInBounds]
  split
  · next he =>
    subst he
    rw [h, if_pos (Array.getElem?_eq_some_iff.mp h).1]
  · rfl

/-- What was put in its places can be taken out of them. -/
theorem takeAll_fill {first : Nat} {built : Array (Option Node)} {ns : List Node}
    (h : Vacant built first (preorder ns).length) :
    takeAll (fill first built ns) (places first ns) = (ns, built) := by
  induction ns generalizing first with
  | nil => rfl
  | cons n ns ih =>
      have hn := n.size_pos
      rw [length_preorder_cons] at h
      have hfirst : built[first]? = some none := h first (Nat.le_refl _) (by omega)
      have hempty : (fill (first + n.size) built ns)[first]? = some none := by
        rw [getElem?_fill (by omega), hfirst]
      have hvacant : Vacant built (first + n.size) (preorder ns).length := fun k hk hk' =>
        h k (by omega) (by omega)
      rw [fill, places, takeAll, Array.setIfInBounds_setIfInBounds, setIfInBounds_none hempty,
        ih hvacant, Array.getElem?_setIfInBounds, if_pos rfl,
        if_pos (Array.getElem?_eq_some_iff.mp hempty).1]
      rfl

/-- Builds the nodes of entries, the last one first, given their places. -/
def buildFrom (built : Array (Option Node)) (entries : List (Entry × Nat)) : Array (Option Node) :=
  entries.foldr (fun e built => e.1.build e.2 built) built

theorem buildFrom_append (built : Array (Option Node)) (es es' : List (Entry × Nat)) :
    buildFrom built (es ++ es') = buildFrom (buildFrom built es') es := List.foldr_append

mutual

/-- Building the entries of a node leaves that node in its place. -/
theorem Node.buildFrom_layout {first : Nat} {built : Array (Option Node)} :
    ∀ n : Node, Vacant built first n.size →
      buildFrom built ((n.layout first).zipIdx first) = built.setIfInBounds first (some n)
  | ⟨level, text, kids⟩, h => by
      have hsize : Node.size ⟨level, text, kids⟩ = (preorder kids).length + 1 := by
        rw [Node.size, Node.preorder, List.length_cons]
      have hkids : Vacant built (first + 1) (preorder kids).length := fun k hk hk' =>
        h k (by omega) (by omega)
      rw [Node.layout, List.zipIdx_cons, buildFrom, List.foldr_cons, ← buildFrom,
        buildFrom_layout kids hkids, Entry.build, takeAll_fill hkids]

/-- Building the entries of a forest leaves its roots in their places. -/
theorem buildFrom_layout {first : Nat} {built : Array (Option Node)} :
    ∀ ns : List Node, Vacant built first (preorder ns).length →
      buildFrom built ((layout first ns).zipIdx first) = fill first built ns
  | [], _ => rfl
  | n :: ns, h => by
      rw [length_preorder_cons] at h
      have hrest : Vacant built (first + n.size) (preorder ns).length := fun k hk hk' =>
        h k (by omega) (by omega)
      have hn : Vacant (fill (first + n.size) built ns) first n.size := fun k hk hk' => by
        rw [getElem?_fill hk', h k hk (by omega)]
      rw [layout, List.zipIdx_append, n.length_layout, buildFrom_append, buildFrom_layout ns hrest,
        n.buildFrom_layout hn, fill]

end

/-- **Building undoes laying out.** -/
theorem takeAll_build_layout (ns : List Node) :
    (takeAll (build (layout 0 ns).toArray) (places 0 ns)).1 = ns := by
  have hvacant : Vacant (Array.replicate (layout 0 ns).toArray.size none) 0 (preorder ns).length := by
    intro k _ hk
    rw [Array.getElem?_replicate, if_pos]
    rw [List.size_toArray, length_layout]; omega
  rw [build, ← buildFrom, buildFrom_layout ns hvacant, takeAll_fill hvacant]

theorem forest_eq_grown (xs : List Item) : forest xs = grown xs := by
  rw [forest, foldl_add]
  exact takeAll_build_layout (grown xs)

/--
**Forests are the canonical ones, and nothing of a list is lost.** The forest of a list is the one and
only canonical forest that is listed as this list.
-/
theorem forest_eq_iff (xs : List Item) (ns : List Node) :
    forest xs = ns ↔ Canonical ns ∧ items ns = xs := by
  rw [forest_eq_grown, items_eq_preorder]
  constructor
  · rintro rfl
    exact ⟨canonical_grown xs, preorder_grown xs⟩
  · rintro ⟨hc, rfl⟩
    exact eq_of_preorder_eq (canonical_grown _) hc (preorder_grown _)

end Sheetwise.Diagram
