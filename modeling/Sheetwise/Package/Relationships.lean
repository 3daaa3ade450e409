import Sheetwise.Package.Basic
import Sheetwise.Package.Path
import Sheetwise.SortedMap

/-!
# Relationships

What a part of a package refers to, under identifiers that the part uses: another part, or something
outside of the package.
-/

namespace Sheetwise

/-- Something that a part refers to. -/
structure Relationship where
  target : String
  kind : String := ""
  /-- Whether the target lies outside of the package. -/
  isExternal : Bool := false
deriving DecidableEq, Repr

/-- The relationships of a part by their identifiers. -/
abbrev Relationships := SortedMap String Relationship

namespace Relationships

/-- The relationship that an element stands for, with its identifier. -/
def ofElement? (e : Markup.Element) : Option (String × Relationship) := do
  if e.name ≠ "Relationship" then none
  let id ← e.get? "Id"
  let target ← e.get? "Target"
  return (id, {
    target
    kind := (e.get? "Type").getD ""
    isExternal := (e.get? "TargetMode").map Text.lower = some "external" })

/-- The relationships in the events of a part, the last of each identifier. -/
def ofEvents (es : List Markup.Event) : Relationships :=
  SortedMap.ofList ((es.filterMap Markup.Event.element?).filterMap ofElement?)

/-- The relationships in a part of a package, if the part is there. -/
def read? (p : Package) (path : String) : Except ReadError (Option Relationships) :=
  match p.events? .trimmed path with
  | none => .ok none
  | some es => es.checked.map fun _ => some (ofEvents es.events)

end Relationships

end Sheetwise
