import Sheetwise.Colors
import Sheetwise.NumberFormat
import Sheetwise.Package.Basic

/-!
# Cell styles

A cell refers to a style by its place. Of a style only three things matter here: whether it shows
numbers as dates, the colour that fills the cell, and whether it draws a border. The part lists number
formats, fills and borders, and then the styles, which name one of each.
-/

namespace Sheetwise

/-- What a style means for the cells that have it. -/
structure CellStyle where
  isDate : Bool := false
  /-- The colour that fills the cell, as six hexadecimal digits in upper case. -/
  fill : Option String := none
  hasBorder : Bool := false
deriving DecidableEq, Repr, Inhabited

namespace Styles

/-- A fill as it is listed: how it covers the cell, and with which colour. -/
structure Fill where
  pattern : Option String := none
  color : Option String := none

/-- The colour that a fill gives to a cell. -/
def Fill.color? (f : Fill) : Option String :=
  match f.pattern with
  | none | some "none" | some "gray125" => none
  | some _ => f.color

/-- A style as it is listed: the places of its number format, fill and border. -/
structure Entry where
  numberFormat : Nat
  fill : Nat
  border : Nat

/-- How far the reading of the part has come. Lists have the last item first. -/
structure State where
  numberFormats : SortedMap Nat String := ∅
  fills : List Fill := []
  borders : List Bool := []
  entries : List Entry := []
  inFills : Bool := false
  inBorders : Bool := false
  inEntries : Bool := false
  /-- Inside the styles of conditional formats, which no cell refers to. -/
  inConditional : Bool := false
  inBorder : Bool := false

/-- The value of an attribute that is a number, zero without one. -/
def wordOf (e : Markup.Element) (key : String) : Nat := ((e.get? key).bind Text.word?).getD 0

/-- A list with its first item changed. -/
def changeFirst {α : Type} (f : α → α) : List α → List α
  | [] => []
  | x :: xs => f x :: xs

/-- Reads an element of a number format. -/
def numberFormat (s : State) (e : Markup.Element) : State :=
  match e.get? "formatCode" with
  | some code =>
    { s with numberFormats := s.numberFormats.insert (wordOf e "numFmtId") code }
  | none => s

/-- Reads the colour of the last fill. -/
def fillColor (s : State) (e : Markup.Element) : Checked State :=
  if s.fills.isEmpty then .ok s
  else do
    let color ← match e.get? "rgb" with
      | some text => Color.ofHex? text
      | none => .ok none
    return { s with fills := changeFirst (fun f => { f with color }) s.fills }

/-- The names of the sides of a border. -/
def sides : List String := ["left", "right", "top", "bottom", "start", "end"]

/-- Reads a side of the last border. -/
def side (s : State) (e : Markup.Element) : State :=
  match e.get? "style" with
  | some style => if style = "none" then s else { s with borders := changeFirst (fun _ => true) s.borders }
  | none => s

/-- Reads the start of an element, which has content if it stays open. -/
def start (s : State) (e : Markup.Element) (staysOpen : Bool) : Checked State :=
  match e.name with
  | "numFmt" => .ok (if s.inConditional then s else numberFormat s e)
  | "fills" => .ok { s with inFills := staysOpen }
  | "borders" => .ok { s with inBorders := staysOpen }
  | "cellXfs" => .ok { s with inEntries := staysOpen }
  | "dxfs" => .ok { s with inConditional := staysOpen }
  | "fill" => .ok (if s.inFills && !s.inConditional then { s with fills := {} :: s.fills } else s)
  | "patternFill" =>
    .ok (if s.inFills && !s.inConditional then
      { s with fills := changeFirst (fun f => { f with pattern := e.get? "patternType" }) s.fills }
    else s)
  | "fgColor" => if s.inFills && !s.inConditional then fillColor s e else .ok s
  | "border" =>
    .ok (if s.inBorders && !s.inConditional then
      { s with borders := false :: s.borders, inBorder := staysOpen }
    else s)
  | "xf" =>
    .ok (if s.inEntries then
      { s with
        entries := ⟨wordOf e "numFmtId", wordOf e "fillId", wordOf e "borderId"⟩ :: s.entries }
    else s)
  | name => .ok (if sides.contains name && s.inBorder then side s e else s)

/-- Reads the end of an element. -/
def finish (s : State) (name : String) : State :=
  match name with
  | "fills" => { s with inFills := false }
  | "borders" => { s with inBorders := false }
  | "border" => { s with inBorder := false }
  | "cellXfs" => { s with inEntries := false }
  | "dxfs" => { s with inConditional := false }
  | _ => s

/-- Reads one event. -/
def step (s : State) : Markup.Event → Checked State
  | .opening e => start s e true
  | .selfClosing e => start s e false
  | .closing name => .ok (finish s name)
  | .text _ => .ok s

/-- What a listed style means, with the lists that it refers to. -/
def Entry.style (x : Entry) (numberFormats : SortedMap Nat String) (fills : List Fill)
    (borders : List Bool) : CellStyle where
  isDate := NumberFormat.isDate x.numberFormat (numberFormats.get? x.numberFormat)
  fill := fills[x.fill]?.bind Fill.color?
  hasBorder := borders[x.border]?.getD false

/-- The styles in the events of the part, in order. -/
def ofEvents (es : List Markup.Event) : Checked (List CellStyle) := do
  let s ← es.foldlM step {}
  return s.entries.reverse.map fun x => x.style s.numberFormats s.fills.reverse s.borders.reverse

/-- The styles of a package; without the part there are none. -/
def read (p : Package) : Reading (List CellStyle) :=
  match p.events? .trimmed "xl/styles.xml" with
  | none => return []
  | some es => do
    let styles ← ExceptT.lift (ofEvents es.events)
    liftExcept es.checked
    return styles

end Styles

end Sheetwise
