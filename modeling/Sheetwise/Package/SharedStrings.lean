import Sheetwise.Package.Basic
import Sheetwise.Text.Escape

/-!
# Shared strings

Texts that many cells share are kept in a part of their own, and a cell refers to one by its place.
An item is the text of its runs put together; runs that only tell how to pronounce it do not count.
-/

namespace Sheetwise.SharedStrings

/-- How far the reading of the part has come. -/
structure State where
  /-- The strings read so far, the last one first. -/
  strings : List String := []
  /-- The text of the item so far. -/
  current : String := ""
  inItem : Bool := false
  inText : Bool := false
  inPhonetic : Bool := false

/-- Reads one event. -/
def step (s : State) : Markup.Event → State
  | .opening e =>
    if e.name = "si" then { s with inItem := true, current := "" }
    else if e.name = "rPh" then { s with inPhonetic := true }
    else if e.name = "t" ∧ s.inItem ∧ !s.inPhonetic then { s with inText := true }
    else s
  | .selfClosing e => if e.name = "si" then { s with strings := "" :: s.strings } else s
  | .closing name =>
    if name = "si" then
      { s with
        strings := Text.unescapeText s.current :: s.strings
        current := ""
        inItem := false }
    else if name = "rPh" then { s with inPhonetic := false }
    else if name = "t" then { s with inText := false }
    else s
  | .text t => if s.inText then { s with current := s.current ++ t } else s

/-- The strings in the events of the part, in order. -/
def ofEvents (es : List Markup.Event) : List String := (es.foldl step {}).strings.reverse

/-- The shared strings of a package; without the part there are none. -/
def read (p : Package) : Except ReadError (List String) :=
  match p.events? .kept "xl/sharedStrings.xml" with
  | none => .ok []
  | some es => es.checked.map fun _ => ofEvents es.events

end Sheetwise.SharedStrings
