/-!
# Diagrams

The text of a diagram comes as a flat list of items, each with a level, and is meant as a forest: an
item belongs to the closest one before it that has a smaller level, and an item without one is a
root. Levels may be skipped and need not start anywhere in particular. Listing a forest in preorder
gives the flat list back.

A list is read once, from its beginning. Every item gets a place, and the place is noted with the item
that it belongs to. The nodes are then built from the back, where the nodes that belong to an item are
built before it is.
-/

namespace Sheetwise.Diagram

/-- A node of a diagram, with the nodes that belong to it. -/
structure Node where
  level : Nat
  text : String
  kids : List Node
deriving Inhabited

/-- An item of a diagram as it is listed: its level and its text. -/
abbrev Item := Nat × String

/-- An item that has been read, with the places of the items that belong to it. -/
structure Entry where
  level : Nat
  text : String
  kids : Array Nat := #[]

/-- What is known of a list when it has been read up to somewhere. -/
structure Linked where
  entries : Array Entry := #[]
  /-- The places of the roots. -/
  roots : Array Nat := #[]
  /-- The last item and the items that it is below, by level and place, from the inside. -/
  path : List (Nat × Nat) := []

/-- Reads one more item, which belongs to the innermost one above it that has a smaller level. -/
def Linked.add (s : Linked) (item : Item) : Linked :=
  let place := s.entries.size
  let entries := s.entries.push { level := item.1, text := item.2 }
  let above := s.path.dropWhile fun e => decide (item.1 ≤ e.1)
  let path := (item.1, place) :: above
  match above with
  | [] => { entries, roots := s.roots.push place, path }
  | (_, parent) :: _ =>
    { entries := entries.modify parent fun e => { e with kids := e.kids.push place }
      roots := s.roots
      path }

/-- Takes the nodes out of some places, in order. A place without a node gives none. -/
def takeAll (built : Array (Option Node)) : List Nat → List Node × Array (Option Node)
  | [] => ([], built)
  | place :: places =>
    let rest := takeAll (built.setIfInBounds place none) places
    (built[place]?.join.toList ++ rest.1, rest.2)

/-- Builds the node of an entry in its place, from nodes that are taken out of theirs. -/
def Entry.build (e : Entry) (place : Nat) (built : Array (Option Node)) : Array (Option Node) :=
  let (kids, built) := takeAll built e.kids.toList
  built.setIfInBounds place (some ⟨e.level, e.text, kids⟩)

/-- Builds the nodes of entries, the last one first. Those that belong to no other are left. -/
def build (entries : Array Entry) : Array (Option Node) :=
  entries.toList.zipIdx.foldr (fun e built => e.1.build e.2 built)
    (Array.replicate entries.size none)

/-- The forest of a list of items. -/
def forest (items : List Item) : List Node :=
  let s := items.foldl Linked.add {}
  (takeAll (build s.entries) s.roots.toList).1

theorem sizeOf_append (ms ns : List Node) :
    sizeOf (ms ++ ns) + 1 = sizeOf ms + sizeOf ns := by
  induction ms with
  | nil => simp only [List.nil_append, List.nil.sizeOf_spec]; omega
  | cons m ms ih => simp only [List.cons_append, List.cons.sizeOf_spec]; omega

/-- The items of a forest, each before all that belong to it; what is still to be listed is a stack. -/
def items : List Node → List Item
  | [] => []
  | n :: rest => (n.level, n.text) :: items (n.kids ++ rest)
termination_by stack => sizeOf stack
decreasing_by
  have := sizeOf_append n.kids rest
  cases n
  simp only [List.cons.sizeOf_spec, Node.mk.sizeOf_spec] at *
  omega

end Sheetwise.Diagram
