import Sheetwise.Codec.Sheet
import Sheetwise.Proofs.Fields
import Sheetwise.Proofs.Named

/-!
# What a history of changes leaves

Values that are put under names, replaced and changed in place are kept in one list, in which each name
is looked for from the front. What is in the list after any number of changes can be told from these
alone. For the order it is the first time that a name was put in that counts, and for a value the last
time, and what was done to it in place since then. A map that is made anew of names and values, in memory
or from what is written, forgets what was before, and is otherwise as if these were put in one by one.

Each change does to the list what it does to this account of it. So the account is carried from one
change to the next, and it is about all the list has: names are not repeated, and whoever goes through the
list meets under each name the value that looking for the name finds.
-/

namespace Sheetwise.Named

variable {α : Type}

/-! ## Changes -/

/-- A change to named values. -/
inductive Change (α : Type) where
  /-- A value is put under a name, in place of the one that is there, if there is one. -/
  | insert (name : String) (a : α)
  /-- The value under a name is changed where it stands, if there is one. -/
  | edit (name : String) (f : α → α)
  /-- Every value is changed where it stands. -/
  | editAll (f : String → α → α)
  /-- The values are replaced by others under names of their own. -/
  | rebuild (es : List (String × α))

namespace Change

/-- The values with a change made. -/
def apply (m : Named α) : Change α → Named α
  | insert name a => m.insert name a
  | edit name f => m.modify name f
  | editAll f => m.map f
  | rebuild es => ofList es

/-- A change gives a name a value. Of values that come under one name at once, it is the last. -/
inductive Gives (name : String) (a : α) : Change α → Prop where
  | insert : Gives name a (insert name a)
  | rebuild {before after : List (String × α)} : (∀ e ∈ after, e.1 ≠ name) →
      Gives name a (rebuild (before ++ (name, a) :: after))

/-- A change leaves the value of a name there, though it may change it in place. -/
def Keeps (name : String) : Change α → Prop
  | insert n _ => n ≠ name
  | edit _ _ => True
  | editAll _ => True
  | rebuild _ => False

/-- What a change in place makes of the value of a name. -/
def edited (name : String) (a : α) : Change α → α
  | insert _ _ => a
  | edit n f => if name = n then f a else a
  | editAll f => f name a
  | rebuild _ => a

/-- The names that were put in, each as often as it was, with one more change. -/
def putIn (names : List String) : Change α → List String
  | insert name _ => names ++ [name]
  | edit _ _ => names
  | editAll _ => names
  | rebuild es => es.map Prod.fst

end Change

/-- The values after some changes; at first there are none. -/
def after (cs : List (Change α)) : Named α := cs.foldl Change.apply empty

/-- The names that were put in, in order and with repetitions, since all values were last replaced. -/
def putIn (cs : List (Change α)) : List String := cs.foldl Change.putIn []

/-- A name was last given a value, and this is what the changes in place made of it since then. -/
def Held (cs : List (Change α)) (name : String) (b : α) : Prop :=
  ∃ before c later a, cs = before ++ c :: later ∧ c.Gives name a ∧ (∀ d ∈ later, d.Keeps name)
    ∧ later.foldl (Change.edited name) a = b

/-! ## One change -/

section

variable {m : Named α} {c : Change α} {name : String} {a b : α}

namespace Change

theorem gives_insert_iff {n : String} {x : α} : (insert n x).Gives name a ↔ name = n ∧ x = a := by
  refine ⟨fun h => ?_, fun h => ?_⟩
  · cases h
    exact ⟨rfl, rfl⟩
  · obtain ⟨rfl, rfl⟩ := h
    exact .insert

theorem gives_rebuild_iff {es : List (String × α)} :
    (rebuild es).Gives name a ↔ (ofList es).get? name = some a := by
  rw [get?_ofList_eq_some_iff]
  refine ⟨fun h => ?_, fun h => ?_⟩
  · cases h with
    | rebuild hafter => exact ⟨_, _, rfl, hafter⟩
  · obtain ⟨before, later, rfl, hafter⟩ := h
    exact .rebuild hafter

/-- What stands under a name after a change was given by it, or was there before and is changed in place. -/
theorem get?_apply : (c.apply m).get? name = some b
    ↔ c.Gives name b ∨ c.Keeps name ∧ ∃ a, m.get? name = some a ∧ c.edited name a = b := by
  cases c with
  | insert n x =>
      show (m.insert n x).get? name = some b ↔ _
      rw [get?_insert, gives_insert_iff]
      by_cases h : name = n
      · simp [h, Keeps]
      · simp [h, Keeps, edited, Ne.symm h]
  | edit n f =>
      have hnone : ¬ (edit n f).Gives name b := fun h => nomatch h
      rw [or_iff_right hnone]
      show ((m.map _).get? name = some b) ↔ _
      rw [get?_map, Option.map_eq_some_iff]
      exact (and_iff_right trivial).symm
  | editAll f =>
      have hnone : ¬ (editAll f).Gives name b := fun h => nomatch h
      rw [or_iff_right hnone]
      show ((m.map _).get? name = some b) ↔ _
      rw [get?_map, Option.map_eq_some_iff]
      exact (and_iff_right trivial).symm
  | rebuild es =>
      rw [gives_rebuild_iff]
      exact (or_iff_left fun h => h.1).symm

/-- The names after a change stand in the order in which they first came, if they did so before. -/
theorem names_apply {ns : List String} (h : m.names = ns.eraseDups) :
    (c.apply m).names = (c.putIn ns).eraseDups := by
  cases c with
  | insert n x =>
      show (m.insert n x).names = (ns ++ [n]).eraseDups
      rw [names_insert, h, eraseDups_concat]
  | edit n f => exact (names_modify m n f).trans h
  | editAll f => exact (names_map m f).trans h
  | rebuild es => exact names_ofList es

end Change

end

/-! ## A history -/

section

variable {cs : List (Change α)} {c : Change α} {name : String} {b : α}

theorem after_concat (cs : List (Change α)) (c : Change α) : after (cs ++ [c]) = c.apply (after cs) := by
  rw [after, List.foldl_append]
  rfl

theorem putIn_concat (cs : List (Change α)) (c : Change α) : putIn (cs ++ [c]) = c.putIn (putIn cs) := by
  rw [putIn, List.foldl_append]
  rfl

theorem not_held_nil : ¬ Held [] name b := by
  intro h
  obtain ⟨before, c, later, a, heq, -⟩ := h
  exact List.append_ne_nil_of_right_ne_nil before (List.cons_ne_nil c later) heq.symm

/-- The last change gave the value, or left it there from the changes before. -/
theorem held_concat : Held (cs ++ [c]) name b
    ↔ c.Gives name b ∨ c.Keeps name ∧ ∃ a, Held cs name a ∧ c.edited name a = b := by
  refine ⟨fun h => ?_, fun h => ?_⟩
  · obtain ⟨before, d, later, a, heq, hgives, hkeeps, hb⟩ := h
    rcases List.eq_nil_or_concat' later with rfl | ⟨later, e, rfl⟩
    · obtain ⟨-, hlast⟩ := List.append_inj' heq rfl
      cases hlast
      cases hb
      exact .inl hgives
    · rw [← List.cons_append, ← List.append_assoc] at heq
      obtain ⟨rfl, hlast⟩ := List.append_inj' heq rfl
      cases hlast
      rw [List.forall_mem_append, List.forall_mem_singleton] at hkeeps
      rw [List.foldl_append] at hb
      exact .inr ⟨hkeeps.2, _, ⟨before, d, later, a, rfl, hgives, hkeeps.1, rfl⟩, hb⟩
  · rcases h with hgives | ⟨hkept, a, ⟨before, d, later, x, rfl, hgives, hkeeps, hx⟩, hb⟩
    · exact ⟨cs, c, [], b, rfl, hgives, List.forall_mem_nil _, rfl⟩
    · refine ⟨before, d, later ++ [c], x, ?_, hgives, ?_, ?_⟩
      · rw [List.append_assoc, List.cons_append]
      · exact List.forall_mem_append.mpr ⟨hkeeps, List.forall_mem_singleton.mpr hkept⟩
      · rw [List.foldl_append, hx]
        exact hb

/-- The names stand in the order in which they were first put in. -/
theorem names_after (cs : List (Change α)) : (after cs).names = (putIn cs).eraseDups := by
  induction cs using List.reverseRecOn with
  | nil => rfl
  | append_singleton cs c ih => rw [after_concat, putIn_concat, Change.names_apply ih]

/-- Under a name stands the value that it was last given, as changed in place since. -/
theorem get?_after_eq_some_iff : (after cs).get? name = some b ↔ Held cs name b := by
  induction cs using List.reverseRecOn generalizing b with
  | nil => exact iff_of_false (fun h => nomatch h) not_held_nil
  | append_singleton cs c ih => simp only [after_concat, Change.get?_apply, held_concat, ih]

end

/-- Values under names are what a history of changes makes of them. -/
structure Follows (cs : List (Change α)) (m : Named α) : Prop where
  /-- No name is there twice. -/
  nodup : m.names.Nodup
  /-- The names stand in the order in which they were first put in. -/
  names_eq : m.names = (putIn cs).eraseDups
  /-- Under a name stands the value that it was last given, as changed in place since. -/
  get?_iff : ∀ name b, m.get? name = some b ↔ Held cs name b
  /-- Under each name there is the value that looking for it finds. -/
  mem_iff : ∀ name b, (name, b) ∈ m.toList ↔ m.get? name = some b
  /-- To change a value in place leaves the order and the other values as they are. -/
  edit : ∀ name f, (m.modify name f).names = m.names
    ∧ ∀ other, other ≠ name → (m.modify name f).get? other = m.get? other
  /-- So does to replace one, and a value under a new name comes last. -/
  insert : ∀ name a, (m.insert name a).names = (if name ∈ m.names then m.names else m.names ++ [name])
    ∧ ∀ other, other ≠ name → (m.insert name a).get? other = m.get? other

theorem follows_after (cs : List (Change α)) : Follows cs (after cs) where
  nodup := (after cs).nodup
  names_eq := names_after cs
  get?_iff _ _ := get?_after_eq_some_iff
  mem_iff _ _ := mem_toList_iff
  edit name f := ⟨names_modify _ name f, fun _ => get?_modify_of_ne _ f⟩
  insert name a := ⟨names_insert _ name a, fun _ => get?_insert_of_ne _ a⟩

example : (after [.insert "Zeta" 1, .insert "Alpha" 2, .insert "Zeta" 3, .edit "Alpha" (· + 1)]).toList
    = [("Zeta", 3), ("Alpha", 3)] := by decide

/-! ## Sheets -/

/-- Sheets that are read are made of the members of an object, in their order. -/
theorem sheetsOfJson?_eq_some_iff {written : Json} {sheets : Named Sheet} :
    sheetsOfJson? written = some sheets ↔ ∃ members es, written = .obj members
      ∧ List.Forall₂ (fun w e => w.1 = e.1 ∧ Sheet.ofJson? w.2 = some e.2) members es
      ∧ ofList es = sheets := by
  simp only [sheetsOfJson?, Option.map_eq_some_iff, Json.entries?_eq_some_iff, Option.some.injEq]
  refine ⟨fun h => ?_, fun h => ?_⟩
  · obtain ⟨es, ⟨members, hobj, hmembers⟩, hmade⟩ := h
    exact ⟨members, es, hobj, hmembers, hmade⟩
  · obtain ⟨members, es, hobj, hmembers, hmade⟩ := h
    exact ⟨es, ⟨members, hobj, hmembers⟩, hmade⟩

/--
**Sheets keep the order in which they first came, and each what was last put under its name.** After any
number of changes the sheets are what these say: no name is there twice, the order is that of the first
insertions, under a name stands the sheet that it was last given, with the changes made to it in place
since then, and to change one sheet leaves the others and the order as they are. To read sheets from what
is written is one of these changes, whatever was there before: they are made anew of the members, of
which any number may have the same name.
-/
theorem sheets_follow_changes (cs : List (Change Sheet)) :
    Follows cs (after cs)
    ∧ ∀ (written : Json) (sheets : Named Sheet), sheetsOfJson? written = some sheets
      ↔ ∃ members es, written = .obj members
        ∧ List.Forall₂ (fun w e => w.1 = e.1 ∧ Sheet.ofJson? w.2 = some e.2) members es
        ∧ after (cs ++ [.rebuild es]) = sheets := by
  refine ⟨follows_after cs, fun written sheets => ?_⟩
  rw [sheetsOfJson?_eq_some_iff]
  simp only [after_concat, Change.apply]

end Sheetwise.Named
