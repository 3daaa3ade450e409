import Mathlib.Data.List.Induction
import Sheetwise.Named

/-!
# What a list of named values leaves

When values are put under names one after the other, a name keeps the place where it first came and the
value that came last. Both are said here of the whole list that a map is made of. What is done to a value
in its place moves no name and touches no other value.
-/

namespace Sheetwise.Named

variable {α β : Type}

theorem names_insertEntry (name : String) (a : α) (es : List (String × α)) :
    (insertEntry name a es).map Prod.fst
      = if name ∈ es.map Prod.fst then es.map Prod.fst else es.map Prod.fst ++ [name] := by
  induction es with
  | nil => simp [insertEntry]
  | cons e es ih =>
      obtain ⟨n, b⟩ := e
      unfold insertEntry
      by_cases h : n = name
      · subst h; simp
      · rw [if_neg h, List.map_cons, ih, List.map_cons]
        by_cases hm : name ∈ es.map Prod.fst
        · rw [if_pos hm, if_pos (List.mem_cons_of_mem _ hm)]
        · have hc : name ∉ n :: es.map Prod.fst := by
            intro hc
            rcases List.mem_cons.mp hc with hc | hc
            · exact h hc.symm
            · exact hm hc
          rw [if_neg hm, if_neg hc, List.cons_append]

theorem lookup_insertEntry (name k : String) (a : α) (es : List (String × α)) :
    (insertEntry name a es).lookup k = if k = name then some a else es.lookup k := by
  induction es with
  | nil => by_cases h : k = name <;> simp [insertEntry, List.lookup_cons, h, beq_false_of_ne]
  | cons e es ih =>
      obtain ⟨n, b⟩ := e
      unfold insertEntry
      by_cases h : n = name
      · subst h
        by_cases hk : k = n
        · simp [hk]
        · simp [List.lookup_cons, hk, beq_false_of_ne]
      · rw [if_neg h, List.lookup_cons, ih, List.lookup_cons]
        by_cases hk : k = n
        · simp [hk, h]
        · simp [hk, beq_false_of_ne]

theorem names_insert (m : Named α) (name : String) (a : α) :
    (m.insert name a).names = if name ∈ m.names then m.names else m.names ++ [name] :=
  names_insertEntry name a m.entries

theorem get?_insert (m : Named α) (name k : String) (a : α) :
    (m.insert name a).get? k = if k = name then some a else m.get? k :=
  lookup_insertEntry name k a m.entries

theorem get?_insert_of_ne (m : Named α) (a : α) {name k : String} (h : k ≠ name) :
    (m.insert name a).get? k = m.get? k := by
  rw [get?_insert, if_neg h]

theorem names_map (m : Named α) (f : String → α → β) : (m.map f).names = m.names := by
  simp [names, map, Function.comp_def]

theorem get?_map (m : Named α) (f : String → α → β) (name : String) :
    (m.map f).get? name = (m.get? name).map (f name) := by
  show (m.entries.map fun e => (e.1, f e.1 e.2)).lookup name = (m.entries.lookup name).map (f name)
  induction m.entries with
  | nil => rfl
  | cons e es ih =>
      rw [List.map_cons, List.lookup_cons, List.lookup_cons, ih]
      by_cases h : name = e.1
      · simp [h]
      · simp [h, beq_false_of_ne]

theorem names_modify (m : Named α) (name : String) (f : α → α) : (m.modify name f).names = m.names :=
  names_map m _

theorem get?_modify_of_ne (m : Named α) (f : α → α) {name k : String} (h : k ≠ name) :
    (m.modify name f).get? k = m.get? k := by
  simp only [modify, get?_map, if_neg h, Option.map_id']

/-- Going through the values meets what looking for their names finds. -/
theorem mem_toList_iff {m : Named α} {name : String} {a : α} :
    (name, a) ∈ m.toList ↔ m.get? name = some a := by
  rw [get?, List.lookup_eq_some_iff]
  refine ⟨fun h => ?_, fun h => ?_⟩
  · obtain ⟨before, later, heq⟩ := List.append_of_mem h
    refine ⟨before, later, heq, fun e he => bne_iff_ne.mpr fun hname => ?_⟩
    -- a second place of the name would be a repetition
    have hnodup := m.nodup
    rw [show m.entries = before ++ (name, a) :: later from heq, List.map_append, List.map_cons,
      List.nodup_append] at hnodup
    exact hnodup.2.2 e.1 (List.mem_map_of_mem he) name List.mem_cons_self hname.symm
  · obtain ⟨before, later, heq, -⟩ := h
    rw [toList, heq]
    exact List.mem_append_right _ List.mem_cons_self

theorem ofList_concat (es : List (String × α)) (e : String × α) :
    ofList (es ++ [e]) = (ofList es).insert e.1 e.2 := by
  unfold ofList
  rw [List.foldl_append, List.foldl_cons, List.foldl_nil]

/-- A name that is not there yet is put at the end. -/
theorem insertEntry_of_notMem {name : String} {a : α} {es : List (String × α)}
    (h : name ∉ es.map Prod.fst) : insertEntry name a es = es ++ [(name, a)] := by
  induction es with
  | nil => rfl
  | cons e es ih =>
      rw [List.map_cons, List.mem_cons, not_or] at h
      rw [insertEntry, if_neg (Ne.symm h.1), ih h.2, List.cons_append]

/-- Values under names that are not repeated stay as they come. -/
theorem entries_ofList {es : List (String × α)} (h : (es.map Prod.fst).Nodup) :
    (ofList es).entries = es := by
  induction es using List.reverseRecOn with
  | nil => rfl
  | append_singleton es e ih =>
      rw [List.map_append, List.nodup_append] at h
      have hlast : e.1 ∉ es.map Prod.fst :=
        fun hmem => h.2.2 e.1 hmem e.1 (List.mem_singleton_self e.1) rfl
      rw [ofList_concat]
      show insertEntry e.1 e.2 (ofList es).entries = es ++ [e]
      rw [ih h.1, insertEntry_of_notMem hlast]

/-- A map is made again of its entries. -/
theorem ofList_entries (m : Named α) : ofList m.entries = m :=
  ext (entries_ofList m.nodup)

theorem mem_of_mem_insertEntry {name : String} {a : α} {es : List (String × α)} {e : String × α}
    (h : e ∈ insertEntry name a es) : e = (name, a) ∨ e ∈ es := by
  induction es with
  | nil => exact .inl (List.mem_singleton.mp h)
  | cons e' es ih =>
      unfold insertEntry at h
      split at h
      · next hname =>
        rcases List.mem_cons.mp h with rfl | h
        · exact .inl (by rw [← hname])
        · exact .inr (List.mem_cons_of_mem _ h)
      · rcases List.mem_cons.mp h with rfl | h
        · exact .inr List.mem_cons_self
        · exact (ih h).imp_right (List.mem_cons_of_mem _)

/-- Nothing is in a map that was not put in. -/
theorem mem_of_mem_ofList {es : List (String × α)} {e : String × α} (h : e ∈ (ofList es).toList) :
    e ∈ es := by
  induction es using List.reverseRecOn with
  | nil => exact absurd h List.not_mem_nil
  | append_singleton es e' ih =>
      rw [ofList_concat] at h
      rcases mem_of_mem_insertEntry h with rfl | h
      · exact List.mem_append_right _ (List.mem_singleton_self _)
      · exact List.mem_append_left _ (ih h)

/-- A name that comes once more makes no difference to where it came first. -/
theorem eraseDups_concat (ns : List String) (name : String) : (ns ++ [name]).eraseDups
    = if name ∈ ns.eraseDups then ns.eraseDups else ns.eraseDups ++ [name] := by
  rw [List.eraseDups_append]
  by_cases h : name ∈ ns
  · rw [if_pos (List.mem_eraseDups.mpr h)]
    simp [List.removeAll, h]
  · rw [if_neg (fun hm => h (List.mem_eraseDups.mp hm))]
    simp [List.removeAll, h, List.eraseDups_cons]

/-- **The names stand in the order in which they first came.** -/
theorem names_ofList (es : List (String × α)) : (ofList es).names = (es.map Prod.fst).eraseDups := by
  induction es using List.reverseRecOn with
  | nil => rfl
  | append_singleton es e ih =>
      rw [ofList_concat, names_insert, ih, List.map_append, List.map_singleton, eraseDups_concat]

/-- **Under a name stands the value that came last.** -/
theorem get?_ofList (es : List (String × α)) (name : String) :
    (ofList es).get? name = es.reverse.lookup name := by
  induction es using List.reverseRecOn with
  | nil => rfl
  | append_singleton es e ih =>
      rw [ofList_concat, get?_insert, ih, List.reverse_append, List.reverse_singleton,
        List.singleton_append, List.lookup_cons]
      by_cases h : name = e.1
      · simp [h]
      · simp [h, beq_false_of_ne]

theorem exists_get?_ofList {es : List (String × α)} {name : String}
    (h : name ∈ es.map Prod.fst) : ∃ a, (ofList es).get? name = some a := by
  rw [get?_ofList, ← Option.isSome_iff_exists, List.lookup_isSome_iff]
  obtain ⟨e, he, rfl⟩ := List.mem_map.mp h
  exact ⟨e, List.mem_reverse.mpr he, by simp⟩

theorem get?_ofList_eq_none {es : List (String × α)} {name : String}
    (h : name ∉ es.map Prod.fst) : (ofList es).get? name = none := by
  rw [get?_ofList, List.lookup_eq_none_iff]
  intro e he
  rw [bne_iff_ne]
  intro hname
  exact h (List.mem_map.mpr ⟨e, List.mem_reverse.mp he, hname.symm⟩)

/-- The first of some values stays only if none of the others has its name. -/
theorem get?_ofList_cons (e : String × α) (es : List (String × α)) (name : String) :
    (ofList (e :: es)).get? name
      = if name ∈ es.map Prod.fst then (ofList es).get? name
        else if name = e.1 then some e.2 else none := by
  rw [get?_ofList, List.reverse_cons, List.lookup_append, ← get?_ofList]
  split
  · next h =>
    obtain ⟨a, ha⟩ := exists_get?_ofList h
    rw [ha, Option.some_or]
  · next h =>
    rw [get?_ofList_eq_none h, Option.none_or, List.lookup_cons]
    by_cases hn : name = e.1
    · simp [hn]
    · simp [hn, beq_false_of_ne]

theorem get?_ofList_eq_some_iff {es : List (String × α)} {name : String} {a : α} :
    (ofList es).get? name = some a
      ↔ ∃ before after, es = before ++ (name, a) :: after ∧ ∀ e ∈ after, e.1 ≠ name := by
  rw [get?_ofList, List.lookup_eq_some_iff]
  constructor
  · intro hgiven
    obtain ⟨l₁, l₂, heq, hne⟩ := hgiven
    refine ⟨l₂.reverse, l₁.reverse, ?_, ?_⟩
    · rw [← List.reverse_reverse es, heq]
      simp
    · intro e he
      have h := hne e (List.mem_reverse.mp he)
      exact fun h' => by simp [h'] at h
  · intro hgiven
    obtain ⟨before, after, rfl, hne⟩ := hgiven
    refine ⟨after.reverse, before.reverse, by simp, ?_⟩
    intro e he
    have h := hne e (List.mem_reverse.mp he)
    simpa using fun h' => h h'.symm

end Sheetwise.Named
