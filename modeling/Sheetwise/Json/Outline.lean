import Sheetwise.Json.Reader

/-!
# Outlines of records

A text may hold more than its reader knows: a record has members that are passed over, and what they
hold has to be well formed but need not mean anything. An outline says how much of a written value is
read. It leaves nothing in the place of what is passed over, and refuses a value whose spelling it
does not take. A value of another form than the outline's is left as it is, so that it is refused, or
taken, by whoever reads what it means.
-/

namespace Sheetwise.Json

/-- What is left to read of a written value. -/
abbrev Outline := Written → Option Written

namespace Outline

/-- All of the value is read. -/
def whole : Outline := some

/-- An array of values of one outline. -/
def list (item : Outline) : Outline
  | .arr items => (items.mapM item).map .arr
  | w => some w

/-- An object by name, with values of one outline. -/
def named (item : Outline) : Outline
  | .obj members => (members.mapM fun m => (item m.2).map fun w => (m.1, w)).map .obj
  | w => some w

/-- An object by number. The names are digits as they stand, with no escapes. -/
def indexed (item : Outline) : Outline
  | .obj members => if members.any fun m => m.1.contains '\\' then none else named item (.obj members)
  | w => some w

/-- Fields written in their order, without their names. -/
def inOrder (field : String → Outline) : List String → List Written → Option (List Written)
  | name :: names, w :: ws => do return (← field name w) :: (← inOrder field names ws)
  | _, ws => some ws

/-- A member of a record, passed over if its name is not that of a field. -/
def member (names : List String) (field : String → Outline) (m : List Char × Written) :
    Option (List Char × Written) := do
  let name := String.ofList (← unescape? m.1)
  return (m.1, ← if names.contains name then field name m.2 else some .null)

/-- A record with fields of these names, an object or an array of the fields in their order. -/
def record (names : List String) (field : String → Outline) : Outline
  | .arr items => (inOrder field names items).map .arr
  | .obj members => (members.mapM (member names field)).map .obj
  | w => some w

end Outline

end Sheetwise.Json
