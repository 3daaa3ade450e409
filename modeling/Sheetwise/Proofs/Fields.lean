import Mathlib.Data.List.Basic
import Sheetwise.Json.Record
import Sheetwise.Proofs.Checked

/-!
# Reading what was written

The small readers undo the small writers: a number is read back if it has the width that is read, a
floating-point number if there is a JSON value for it, and lists and optional values if what is in them
is. A record that was written as an object is read back with its members in place, so that each of its
fields can be looked up by name.
-/

namespace Sheetwise.Json

variable {α β : Type}

/-- A number of 32 bits. -/
def IsWord (n : Nat) : Prop := n ≤ 4294967295

/-- A number of 64 bits. -/
def IsLongWord (n : Nat) : Prop := n ≤ 18446744073709551615

/-- An integer of 32 bits. -/
def IsInt32 (n : Int) : Prop := -2147483648 ≤ n ∧ n ≤ 2147483647

/-- An integer of 64 bits. -/
def IsInt64 (n : Int) : Prop := -9223372036854775808 ≤ n ∧ n ≤ 9223372036854775807

instance : DecidablePred IsWord := fun n => inferInstanceAs (Decidable (n ≤ _))

instance : DecidablePred IsLongWord := fun n => inferInstanceAs (Decidable (n ≤ _))

instance : DecidablePred IsInt32 := fun n => inferInstanceAs (Decidable (_ ≤ n ∧ n ≤ _))

instance : DecidablePred IsInt64 := fun n => inferInstanceAs (Decidable (_ ≤ n ∧ n ≤ _))

/-! ## Values -/

@[simp] theorem str?_str (s : String) : str? (.str s) = some s := rfl

@[simp] theorem bool?_bool (b : Bool) : bool? (.bool b) = some b := rfl

theorem natWithin?_nat {max n : Nat} (h : n ≤ max) : natWithin? max (nat n) = some n := by
  simp [nat, natWithin?, h]

theorem word?_nat {n : Nat} (h : IsWord n) : word? (nat n) = some n := natWithin?_nat h

theorem longWord?_nat {n : Nat} (h : IsLongWord n) : longWord? (nat n) = some n := natWithin?_nat h

theorem int32?_int {n : Int} (h : IsInt32 n) : int32? (.int n) = some n := if_pos h

theorem int64?_int {n : Int} (h : IsInt64 n) : int64? (.int n) = some n := if_pos h

theorem number_of_isFinite {x : Float} (h : Binary64.isFinite x) : number x = .float x := if_pos h

theorem float?_number {x : Float} (h : Binary64.isFinite x) : float? (number x) = some x := by
  rw [number_of_isFinite h]; rfl

theorem list?_list {write : α → Json} {read : Json → Option α} {xs : List α}
    (h : ∀ a ∈ xs, read (write a) = some a) : list? read (list write xs) = some xs := by
  rw [list, list?]
  induction xs with
  | nil => rfl
  | cons a xs ih =>
      rw [List.forall_mem_cons] at h
      rw [List.map_cons, List.mapM_cons, h.1, ih h.2]
      rfl

theorem pair?_arr {first : Json → Option α} {second : Json → Option β} {i j : Json} {a : α} {b : β}
    (ha : first i = some a) (hb : second j = some b) :
    pair? first second (.arr [i, j]) = some (a, b) := by
  rw [pair?, ha, hb]
  rfl

/-- An optional value is read back if what is in it is, and is not written as if there were none. -/
theorem orNull?_option {write : α → Json} {read : Json → Option α} {x : Option α}
    (hnull : ∀ a, write a ≠ .null) (h : ∀ a ∈ x, read (write a) = some a) :
    orNull? read (option write x) = some x := by
  cases x with
  | none => rfl
  | some a =>
      rw [option, orNull?, h a rfl]
      · rfl
      · exact hnull a

theorem orNull?_word {x : Option Nat} (h : ∀ n ∈ x, IsWord n) :
    orNull? word? (option nat x) = some x :=
  orNull?_option (fun _ => by simp [nat]) fun n hn => word?_nat (h n hn)

theorem orNull?_int32 {x : Option Int} (h : ∀ n ∈ x, IsInt32 n) :
    orNull? int32? (option .int x) = some x :=
  orNull?_option (fun _ => by simp) fun n hn => int32?_int (h n hn)

@[simp] theorem orNull?_str (x : Option String) : orNull? str? (option .str x) = some x :=
  orNull?_option (fun _ => by simp) fun _ _ => rfl

theorem orNull?_float {x : Option Float} (h : ∀ y ∈ x, Binary64.isFinite y) :
    orNull? float? (option number x) = some x := by
  cases x with
  | none => rfl
  | some y =>
      rw [option, number_of_isFinite (h y rfl)]
      rfl

/-! ## What was read -/

theorem isInt32_of_int32? {j : Json} {n : Int} (h : int32? j = some n) : IsInt32 n := by
  unfold int32? intWithin? at h
  split at h
  · split at h
    · next hn =>
      cases h
      exact hn
    · cases h
  · cases h

theorem isInt32_of_required? {r : Record} {name : String} {n : Int}
    (h : r.required? name int32? = some n) : IsInt32 n := by
  obtain ⟨_, -, hn⟩ := Option.bind_eq_some_iff.mp h
  exact isInt32_of_int32? hn

theorem isInt32_of_optional? {r : Record} {name : String} {x : Option Int}
    (h : r.optional? name int32? = some x) : ∀ n ∈ x, IsInt32 n := by
  intro n hn
  obtain rfl := Option.mem_def.mp hn
  unfold Record.optional? Record.orElse? at h
  split at h
  · cases h
  · unfold orNull? at h
    split at h
    · cases h
    · obtain ⟨_, hread, hsome⟩ := Option.map_eq_some_iff.mp h
      cases hsome
      exact isInt32_of_int32? hread

/-- A list is read if each of its items is, and gives what these give. -/
theorem mapM_eq_some_iff {f : α → Option β} {l : List α} {ys : List β} :
    l.mapM f = some ys ↔ List.Forall₂ (fun a b => f a = some b) l ys := by
  induction l generalizing ys with
  | nil =>
      rw [List.mapM_nil, List.forall₂_nil_left_iff]
      exact ⟨fun h => (Option.some.inj h).symm, fun h => congrArg some h.symm⟩
  | cons a l ih =>
      rw [List.mapM_cons, List.forall₂_cons_left_iff]
      refine ⟨fun h => ?_, fun h => ?_⟩
      · obtain ⟨b, hb, h⟩ := Option.bind_eq_some_iff.mp h
        obtain ⟨bs, hbs, h⟩ := Option.bind_eq_some_iff.mp h
        exact ⟨b, bs, hb, ih.mp hbs, (Option.some.inj h).symm⟩
      · obtain ⟨b, bs, hb, hbs, rfl⟩ := h
        rw [hb, ih.mpr hbs]
        rfl

/-- A list of which each item gives itself gives itself. -/
theorem mapM_eq_self {f : α → Option α} {l : List α} (h : ∀ a ∈ l, f a = some a) : l.mapM f = some l :=
  mapM_eq_some_iff.mpr (List.forall₂_same.mpr h)

theorem exists_of_mem_mapM {f : α → Option β} {l : List α} {ys : List β} {b : β}
    (h : l.mapM f = some ys) (hb : b ∈ ys) : ∃ a ∈ l, f a = some b :=
  exists_of_forall₂_mem (r := fun a b => f a = some b) (mapM_eq_some_iff.mp h) hb

theorem exists_of_mem_list? {item : Json → Option α} {j : Json} {xs : List α} {x : α}
    (h : list? item j = some xs) (hx : x ∈ xs) : ∃ i, item i = some x := by
  unfold list? at h
  split at h
  · obtain ⟨i, -, hi⟩ := exists_of_mem_mapM h hx
    exact ⟨i, hi⟩
  · cases h

/-- The entries of an object are its members, each with its name and its value as they are read. -/
theorem entries?_eq_some_iff {key : String → Option β} {item : Json → Option α} {j : Json}
    {es : List (β × α)} : entries? key item j = some es
      ↔ ∃ ms, j = .obj ms ∧ List.Forall₂ (fun m e => key m.1 = some e.1 ∧ item m.2 = some e.2) ms es := by
  have hread (m : String × Json) (e : β × α) : (do return (← key m.1, ← item m.2)) = some e
      ↔ key m.1 = some e.1 ∧ item m.2 = some e.2 := by
    cases key m.1 <;> cases item m.2 <;> simp [Prod.ext_iff]
  cases j with
  | obj ms =>
      simp only [entries?, mapM_eq_some_iff, hread, Json.obj.injEq]
      rw [exists_eq_left']
  | _ => simp [entries?]

theorem exists_of_mem_entries? {key : String → Option β} {item : Json → Option α} {j : Json}
    {es : List (β × α)} {e : β × α} (h : entries? key item j = some es) (he : e ∈ es) :
    ∃ i, item i = some e.2 := by
  obtain ⟨ms, rfl, hms⟩ := entries?_eq_some_iff.mp h
  obtain ⟨m, -, -, hitem⟩ := exists_of_forall₂_mem hms he
  exact ⟨m.2, hitem⟩

/-! ## Records -/

/-- What has been read is handed on to what is read next. -/
theorem read_then {x : Option α} {f : α → Option β} {a : α} {y : Option β} (h : x = some a)
    (hf : f a = y) : (x >>= f) = y := by
  rw [h]; exact hf

/-- The members that are read of an object are those with the names, if none of these is repeated. -/
theorem members?_obj {names : List String} {ms : List (String × Json)}
    (h : ((ms.filter fun m => names.contains m.1).map Prod.fst).Nodup) :
    members? names (.obj ms) = some (ms.filter fun m => names.contains m.1) := by
  rw [members?]
  exact if_pos h

/-- Among other members, those with the names are read as they are. -/
theorem members?_between {names : List String} {before ms after : List (String × Json)}
    (h : (ms.map Prod.fst).Sublist names) (hn : names.Nodup)
    (hbefore : ∀ m ∈ before, m.1 ∉ names) (hafter : ∀ m ∈ after, m.1 ∉ names) :
    members? names (.obj (before ++ (ms ++ after))) = some ms := by
  have hunknown {rest : List (String × Json)} (hrest : ∀ m ∈ rest, m.1 ∉ names) :
      (rest.filter fun m => names.contains m.1) = [] := by
    rw [List.filter_eq_nil_iff]
    intro m hm
    rw [List.contains_iff_mem]
    exact hrest m hm
  have hknown : (ms.filter fun m => names.contains m.1) = ms := by
    rw [List.filter_eq_self]
    intro m hm
    rw [List.contains_iff_mem]
    exact h.subset (List.mem_map_of_mem hm)
  have hall : ((before ++ (ms ++ after)).filter fun m => names.contains m.1) = ms := by
    rw [List.filter_append, List.filter_append, hunknown hbefore, hunknown hafter, hknown,
      List.nil_append, List.append_nil]
  rw [members?_obj (by rw [hall]; exact hn.sublist h), hall]

/-- An object with no members but those that are read, each in its turn, is read as it is. -/
theorem members?_of_sublist {names : List String} {ms : List (String × Json)}
    (h : (ms.map Prod.fst).Sublist names) (hn : names.Nodup) :
    members? names (.obj ms) = some ms := by
  have hread := members?_between h hn (List.forall_mem_nil _) (List.forall_mem_nil _)
  rwa [List.nil_append, List.append_nil] at hread

/-- An object with exactly the members that are read is read as it is. -/
theorem members?_of_names {names : List String} {ms : List (String × Json)}
    (h : ms.map Prod.fst = names) (hn : names.Nodup) : members? names (.obj ms) = some ms :=
  members?_of_sublist (h ▸ .refl _) hn

/-- A record that is written with all its fields is read as it is. -/
theorem fields?_obj {names : List String} {ms : List (String × Json)} (h : ms.map Prod.fst = names)
    (hn : names.Nodup) : fields? names (.obj ms) = some ms :=
  members?_of_names h hn

theorem map_fst_member_sublist {name : String} {write : α → Json} {x : Option α} :
    ((member name write x).map Prod.fst).Sublist [name] := by
  cases x with
  | none => exact List.nil_sublist _
  | some a => exact List.Sublist.refl _

namespace Record

variable {r : Record} {name name' : String} {j : Json} {item : Json → Option α} {default : α}

@[simp] theorem get?_cons :
    get? ((name', j) :: r) name = if name = name' then some j else r.get? name := by
  rw [get?, List.lookup_cons]
  by_cases h : name = name'
  · rw [if_pos h, beq_iff_eq.mpr h]
  · rw [if_neg h, beq_eq_false_iff_ne.mpr h]
    rfl

@[simp] theorem get?_nil : get? [] name = none := rfl

@[simp] theorem get?_append {r' : Record} : get? (r ++ r') name = (r.get? name).or (r'.get? name) :=
  List.lookup_append

@[simp] theorem get?_member {write : β → Json} {x : Option β} :
    get? (member name' write x) name = if name = name' then x.map write else none := by
  cases x with
  | none => rw [member, get?_nil, Option.map_none, ite_self]
  | some b => exact get?_cons

@[simp] theorem required?_cons : required? ((name', j) :: r) name item
    = if name = name' then item j else r.required? name item := by
  rw [required?, get?_cons]
  split <;> rfl

@[simp] theorem required?_nil : required? [] name item = none := rfl

@[simp] theorem orElse?_cons : orElse? ((name', j) :: r) name item default
    = if name = name' then item j else r.orElse? name item default := by
  rw [orElse?, get?_cons]
  by_cases h : name = name'
  · simp only [if_pos h]
  · simp only [if_neg h]
    rfl

@[simp] theorem orElse?_nil : orElse? [] name item default = some default := rfl

@[simp] theorem optional?_cons : optional? ((name', j) :: r) name item
    = if name = name' then orNull? item j else r.optional? name item :=
  orElse?_cons

@[simp] theorem optional?_nil : optional? [] name item = some none := orElse?_nil

/-! What is read of a field, from what stands under its name. -/

theorem required?_of_get? {a : α} (hget : r.get? name = some j) (hread : item j = some a) :
    r.required? name item = some a := by
  rw [required?, hget]
  exact hread

theorem orElse?_of_get? {a : α} (hget : r.get? name = some j) (hread : item j = some a) :
    r.orElse? name item default = some a := by
  rw [orElse?, hget]
  exact hread

/-- A field that is left out is read back as one without a value. -/
theorem optional?_of_get? {write : α → Json} {x : Option α} (hget : r.get? name = x.map write)
    (hread : orNull? item (option write x) = some x) : r.optional? name item = some x := by
  cases x with
  | none =>
      rw [optional?, orElse?, hget]
      rfl
  | some a => exact orElse?_of_get? hget hread

end Record

/-! ## Objects by name -/

/-- The members of an object are read if their names are read back and their values are read. -/
theorem entries?_map {κ : Type} {key : String → Option κ} (name : κ → String)
    {item : Json → Option β} {write : α → Json} {f : α → β} {es : List (κ × α)}
    (hkey : ∀ e ∈ es, key (name e.1) = some e.1)
    (hitem : ∀ e ∈ es, item (write e.2) = some (f e.2)) :
    entries? key item (.obj (es.map fun e => (name e.1, write e.2)))
      = some (es.map fun e => (e.1, f e.2)) := by
  rw [entries?]
  induction es with
  | nil => rfl
  | cons e es ih =>
      rw [List.forall_mem_cons] at hkey hitem
      rw [List.map_cons, List.mapM_cons, ih hkey.2 hitem.2, hkey.1, hitem.1]
      rfl

/-- The members of an object are read back if their names and their values are. -/
theorem entries?_obj {κ : Type} {key : String → Option κ} (name : κ → String)
    {item : Json → Option α} {write : α → Json} {es : List (κ × α)}
    (hkey : ∀ e ∈ es, key (name e.1) = some e.1) (hitem : ∀ e ∈ es, item (write e.2) = some e.2) :
    entries? key item (.obj (es.map fun e => (name e.1, write e.2))) = some es :=
  (entries?_map (f := id) name hkey hitem).trans (congrArg some (List.map_id es))

end Sheetwise.Json
