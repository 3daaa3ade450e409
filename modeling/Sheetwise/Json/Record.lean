import Sheetwise.Json.Basic

/-!
# Reading values out of JSON

Small readers from a JSON value to a value of the library, each giving `none` when the value does not
have the form. Numbers are strict: a whole number is one written as such and within its limits. A
record is an object, or an array of its fields in their declared order; unknown members are passed
over and a known one must not be repeated.
-/

namespace Sheetwise.Json

/-- A truth value. -/
def bool? : Json → Option Bool
  | .bool b => some b
  | _ => none

/-- A text. -/
def str? : Json → Option String
  | .str s => some s
  | _ => none

/-- A whole number from `min` to `max`. -/
def intWithin? (min max : Int) : Json → Option Int
  | .int n => if min ≤ n ∧ n ≤ max then some n else none
  | _ => none

/-- A natural number of at most `max`. -/
def natWithin? (max : Nat) : Json → Option Nat
  | .int n => if 0 ≤ n ∧ n ≤ max then some n.toNat else none
  | _ => none

/-- A natural number of 32 bits. -/
def word? : Json → Option Nat := natWithin? 4294967295

/-- A natural number of 64 bits. -/
def longWord? : Json → Option Nat := natWithin? 18446744073709551615

/-- An integer of 32 bits. -/
def int32? : Json → Option Int := intWithin? (-2147483648) 2147483647

/-- An integer of 64 bits. -/
def int64? : Json → Option Int := intWithin? (-9223372036854775808) 9223372036854775807

/-- A floating-point number; a whole one stands for the double nearest to it. -/
def float? : Json → Option Float
  | .float x => some x
  | .int n => some (Binary64.ofInt n)
  | _ => none

/-- A list of values of one form. -/
def list? {α : Type} (item : Json → Option α) : Json → Option (List α)
  | .arr xs => xs.mapM item
  | _ => none

/-- A value of a form, or null. -/
def orNull? {α : Type} (item : Json → Option α) : Json → Option (Option α)
  | .null => some none
  | j => (item j).map some

/-- A pair, written as an array of two. -/
def pair? {α β : Type} (first : Json → Option α) (second : Json → Option β) :
    Json → Option (α × β)
  | .arr [a, b] => do return (← first a, ← second b)
  | _ => none

/--
The name of a choice that carries nothing: a text, or an object with the name as its only member and
nothing under it.
-/
def choice? : Json → Option String
  | .str s => some s
  | .obj [(s, .null)] => some s
  | .obj [(s, .obj [])] => some s
  | _ => none

/-- The members of an object whose names and values have given forms, in order. -/
def entries? {κ α : Type} (key : String → Option κ) (item : Json → Option α) :
    Json → Option (List (κ × α))
  | .obj ms => ms.mapM fun m => do return (← key m.1, ← item m.2)
  | _ => none

/-- The fields of a record by name. -/
abbrev Record := List (String × Json)

/-- The members of an object with one of the names, if none of these is repeated. -/
def members? (names : List String) : Json → Option Record
  | .obj ms =>
    let known := ms.filter fun m => names.contains m.1
    if (known.map Prod.fst).Nodup then some known else none
  | _ => none

/-- The fields of a record that is written as an object, or as an array in the order of `names`. -/
def fields? (names : List String) : Json → Option Record
  | .arr xs => if xs.length ≤ names.length then some (names.zip xs) else none
  | j => j.members? names

namespace Record

/-- The value of a field, if it is there. -/
def get? (r : Record) (name : String) : Option Json := r.lookup name

/-- A field that must be there. -/
def required? {α : Type} (r : Record) (name : String) (item : Json → Option α) : Option α :=
  (r.get? name).bind item

/-- A field that has a value also when it is left out. -/
def orElse? {α : Type} (r : Record) (name : String) (item : Json → Option α) (default : α) :
    Option α :=
  match r.get? name with
  | none => some default
  | some j => item j

/-- A field that may be left out or null. -/
def optional? {α : Type} (r : Record) (name : String) (item : Json → Option α) :
    Option (Option α) :=
  r.orElse? name (orNull? item) none

end Record

theorem mem_of_lookup {k : String} {v : Json} :
    ∀ {ms : List (String × Json)}, ms.lookup k = some v → (k, v) ∈ ms
  | (k', v') :: ms, h => by
    rw [List.lookup_cons] at h
    split at h
    · rename_i same
      cases h
      rw [beq_iff_eq] at same
      exact same ▸ List.mem_cons_self
    · exact List.mem_cons_of_mem _ (mem_of_lookup h)

/-- The fields of a record are smaller than the value that it was read from. -/
theorem sizeOf_lt_of_fields? {names : List String} {j : Json} {r : Record} {k : String} {v : Json}
    (h : j.fields? names = some r) (hv : r.get? k = some v) : sizeOf v < sizeOf j := by
  have mem := mem_of_lookup hv
  cases j with
  | arr xs =>
    simp only [fields?] at h
    split at h
    · cases h
      have := List.sizeOf_lt_of_mem (List.of_mem_zip mem).2
      simp only [Json.arr.sizeOf_spec]
      omega
    · cases h
  | obj ms =>
    simp only [fields?, members?] at h
    split at h
    · cases h
      have inside : (k, v) ∈ ms := (List.mem_filter.mp mem).1
      have := List.sizeOf_lt_of_mem inside
      simp only [Prod.mk.sizeOf_spec, Json.obj.sizeOf_spec] at *
      omega
    · cases h
  | null | bool | int | float | str => simp [fields?, members?] at h

end Sheetwise.Json
