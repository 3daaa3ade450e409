import Sheetwise.Markup.Attribute

/-!
# Events of markup

What a reader of markup sees of it, in order: elements that open, elements that are their own end,
elements that close, and runs of text. Every end tag has to match the last element left open; elements
still open at the end are no fault.
-/

namespace Sheetwise.Markup

/-- What a reader of markup sees. -/
inductive Event where
  | opening (e : Element)
  /-- An element that is its own end. -/
  | selfClosing (e : Element)
  | closing (name : String)
  | text (s : String)
deriving DecidableEq, Repr

/-- The element that an event starts, if it starts one. -/
def Event.element? : Event → Option Element
  | .opening e => some e
  | .selfClosing e => some e
  | _ => none

/-- The events of a part up to its end, or up to markup that cannot be read. -/
structure Events where
  events : List Event
  wellFormed : Bool
deriving DecidableEq, Repr

/-- What is done to the blanks around runs of text. -/
inductive Blanks where
  | kept
  /-- Runs lose the blanks at their ends, and those of blanks alone vanish. -/
  | trimmed
deriving DecidableEq

namespace Events

/-- The events with one more in front. -/
def cons (e : Event) (es : Events) : Events := { es with events := e :: es.events }

/-- The text of a run, if there is any to read. -/
def runText? (blanks : Blanks) (run : Bytes) : Option String :=
  let run := match blanks with
    | .kept => run
    | .trimmed => Text.strip isBlank run
  if run = [] then none else textOf? run

/-- The name in an end tag, without the blanks after it. -/
def closingName (body : Bytes) : Bytes :=
  let name := Text.dropEndWhile isBlank body
  if name = [] then body else name

/-- The events of some tokens inside the elements left open, the innermost first. -/
def ofTokens (blanks : Blanks) (unclosed : List Bytes) : List Token → Events
  | [] => ⟨[], true⟩
  | .illFormed :: _ => ⟨[], false⟩
  | .skipped :: ts => ofTokens blanks unclosed ts
  | .text run :: ts =>
    match runText? blanks run with
    | some s => cons (.text s) (ofTokens blanks unclosed ts)
    | none => ofTokens blanks unclosed ts
  | .opening body :: ts =>
    if body.getLast? = some (byte '/') then
      cons (.selfClosing (.ofTag body.dropLast)) (ofTokens blanks unclosed ts)
    else cons (.opening (.ofTag body)) (ofTokens blanks (tagName body :: unclosed) ts)
  | .closing body :: ts =>
    match unclosed with
    | name :: outer =>
      if closingName body = name then cons (.closing (nameOf name)) (ofTokens blanks outer ts)
      else ⟨[], false⟩
    | [] => ⟨[], false⟩

/-- The events of markup. A byte order mark in front is no text. -/
def ofBytes (blanks : Blanks) (bs : Bytes) : Events :=
  ofTokens blanks [] (tokens (if bs.take 3 = [0xEF, 0xBB, 0xBF] then bs.drop 3 else bs))

end Events

end Sheetwise.Markup
