/-!
# Named values in order

A map from names to values that remembers the order in which the names first came. Putting a value
under a name that is there replaces the value where it stands. The sheets of a workbook are such a
map: users know them by name and by their place.
-/

namespace Sheetwise

/-- Values under distinct names, in the order of their first insertion. -/
structure Named (α : Type) where
  entries : List (String × α)
  nodup : (entries.map Prod.fst).Nodup

namespace Named

variable {α β : Type}

@[ext]
theorem ext {m m' : Named α} (h : m.entries = m'.entries) : m = m' := by
  cases m; cases m'; cases h; rfl

/-- The map without names. -/
def empty : Named α := ⟨[], .nil⟩

instance : Inhabited (Named α) := ⟨empty⟩

/-- The names and values, in order. -/
def toList (m : Named α) : List (String × α) := m.entries

/-- The names, in order. -/
def names (m : Named α) : List String := m.entries.map Prod.fst

/-- The number of names. -/
def size (m : Named α) : Nat := m.entries.length

/-- Whether there are no names. -/
def isEmpty (m : Named α) : Bool := m.entries.isEmpty

/-- The value under a name. -/
def get? (m : Named α) (name : String) : Option α := m.entries.lookup name

/-- The entries with a value under a name, in the place of the name or at the end. -/
def insertEntry (name : String) (a : α) : List (String × α) → List (String × α)
  | [] => [(name, a)]
  | (n, b) :: rest => if n = name then (n, a) :: rest else (n, b) :: insertEntry name a rest

theorem mem_names_insertEntry {name n : String} {a : α} {es : List (String × α)}
    (h : n ∈ (insertEntry name a es).map Prod.fst) : n = name ∨ n ∈ es.map Prod.fst := by
  induction es with
  | nil => simpa [insertEntry] using h
  | cons e es ih =>
    obtain ⟨m, b⟩ := e
    unfold insertEntry at h
    split at h
    · exact Or.inr h
    · simp only [List.map_cons, List.mem_cons] at h ⊢
      rcases h with h | h
      · exact Or.inr (Or.inl h)
      · exact (ih h).imp id Or.inr

theorem nodup_insertEntry {name : String} {a : α} {es : List (String × α)}
    (h : (es.map Prod.fst).Nodup) : ((insertEntry name a es).map Prod.fst).Nodup := by
  induction es with
  | nil => simp [insertEntry]
  | cons e es ih =>
    obtain ⟨m, b⟩ := e
    simp only [List.map_cons, List.nodup_cons] at h
    unfold insertEntry
    split
    · simpa using h
    · rename_i other
      simp only [List.map_cons, List.nodup_cons]
      refine ⟨fun hm => ?_, ih h.2⟩
      rcases mem_names_insertEntry hm with rfl | hm
      · exact other rfl
      · exact h.1 hm

/-- The map with a value under a name, which keeps its place if it has one. -/
def insert (m : Named α) (name : String) (a : α) : Named α :=
  ⟨insertEntry name a m.entries, nodup_insertEntry m.nodup⟩

/-- The map with every value replaced by its image. -/
def map (f : String → α → β) (m : Named α) : Named β :=
  ⟨m.entries.map fun e => (e.1, f e.1 e.2), by
    have : (m.entries.map fun e => (e.1, f e.1 e.2)).map Prod.fst = m.entries.map Prod.fst := by
      simp [Function.comp_def]
    rw [this]; exact m.nodup⟩

/-- The map with the value under one name changed, if the name is there. -/
def modify (m : Named α) (name : String) (f : α → α) : Named α :=
  m.map fun n a => if n = name then f a else a

/-- The map of a list of names and values, a later one replacing an earlier one of the same name. -/
def ofList (es : List (String × α)) : Named α :=
  es.foldl (fun m e => m.insert e.1 e.2) empty

end Named

end Sheetwise
