import Sheetwise.Package.Relationships
import Sheetwise.Package.Styles
import Sheetwise.Reference
import Sheetwise.SerialDate
import Sheetwise.Text.Escape

/-!
# Worksheets

The part of a sheet holds its cells, the sizes of its rows and columns, its links and the tables
declared on it. Cells refer to shared strings and styles of the package; links and tables refer to
other parts through the relationships of the sheet.
-/

namespace Sheetwise.Worksheet

/-- What the cells of a sheet refer to. -/
structure Shared where
  strings : List String
  styles : List CellStyle
  dates : DateSystem

/-- A cell whose element is being read. -/
structure OpenCell where
  reference : String
  kind : Option String
  style : Option Nat
  value : Option String := none
  /-- The text kept in the cell itself. -/
  inline : String := ""

/-- A link of a sheet, before it is known what its identifier refers to. -/
structure OpenLink where
  reference : String
  id : Option String
  location : Option String

/-- How far the reading of the part has come. Links and tables are in order. -/
structure State where
  grid : Grid := {}
  cell : Option OpenCell := none
  inValue : Bool := false
  inInline : Bool := false
  inInlineText : Bool := false
  links : List OpenLink := []
  tableIds : List String := []

/-! ## Sizes -/

/-- The whole part of a double, toward zero. -/
def wholePart (x : Float) : Float := if x < 0 then x.ceil else x.floor

/--
The width in points of a column measured in characters: in whole pixels, for digits seven pixels wide
at 96 pixels to an inch.
-/
def widthInPoints (chars : Float) : Float := wholePart ((256 * chars + 18) / 256 * 7) * 0.75

/-- Whether an attribute says yes. -/
def isSet (value : Option String) : Bool := value = some "1" || value = some "true"

/-- The number that an attribute holds. -/
def floatOf (e : Markup.Element) (key : String) : Option Float := (e.get? key).bind Text.float?

/-- Reads the sizes of the rows and columns that set none. -/
def defaults (m : Metrics) (e : Markup.Element) : Metrics where
  defaultRowHeight := (floatOf e "defaultRowHeight").getD m.defaultRowHeight
  defaultColWidth := ((floatOf e "defaultColWidth").map widthInPoints).getD m.defaultColWidth
  rowHeights := m.rowHeights
  colWidths := m.colWidths

/-- Reads the width of some columns, counted from one; often the last one is beyond the sheet. -/
def columns (m : Metrics) (e : Markup.Element) : Metrics :=
  let width := if isSet (e.get? "hidden") then some 0 else (floatOf e "width").map widthInPoints
  match (e.get? "min").bind Text.word?, (e.get? "max").bind Text.word?, width with
  | some lo, some hi, some width =>
    let lo := max lo 1
    { m with colWidths := m.colWidths.fill (lo - 1) (min hi maxColumns + 1 - lo) width }
  | _, _, _ => m

/-- Reads the height of a row, counted from one. -/
def row (m : Metrics) (e : Markup.Element) : Metrics :=
  match (e.get? "r").bind Text.word? with
  | none => m
  | some r =>
    let height := if isSet (e.get? "hidden") then some 0 else floatOf e "ht"
    match height with
    | some height => { m with rowHeights := m.rowHeights.insert r height }
    | none => m

/-! ## Cells -/

/-- The cell that an element starts, if it says where. -/
def openCell? (e : Markup.Element) : Option OpenCell :=
  (e.get? "r").map fun reference =>
    { reference, kind := e.get? "t", style := (e.get? "s").bind Text.word? }

/-- The shared string that a text is the index of. -/
def sharedString (strings : List String) (text : String) : Except ReadError String :=
  match Text.natural? Text.maxLongWord (Text.trimChars text.toList) with
  | none => .error (.badStringIndex text)
  | some i =>
    match strings[i]? with
    | none => .error (.stringIndexBeyond i)
    | some s => .ok s

/-- The value that a text stands for in a cell of numbers, which may be shown as dates. -/
def numberValue (dates : DateSystem) (isDate : Bool) (text : String) : Checked CellValue :=
  match Text.float? (Text.trim text) with
  | none => .ok (.text text)
  | some x =>
    if isDate then do
      match ← SerialDate.textOf? dates x with
      | some date => return .text date
      | none => return .number x
    else .ok (.number x)

/-- The value of a cell, by the kind that it declares. -/
def value (shared : Shared) (isDate : Bool) (cell : OpenCell) :
    Reading (Option CellValue) :=
  match cell.kind, cell.value with
  | some "inlineStr", _ => return some (.text (Text.unescapeText cell.inline))
  | _, none => return none
  | some "s", some v => do return some (.text (← sharedString shared.strings v))
  | some "b", some v => return some (.bool (v = "1" || Text.lower v = "true"))
  | some "str", some v => return some (.text (Text.unescapeText v))
  | none, some v | some "n", some v =>
    ExceptT.lift ((numberValue shared.dates isDate v).map some)
  | some _, some v => return some (.text v)

/-- Marks a cell with what its style means. -/
def applyStyle (g : Grid) (a : Address) (style : CellStyle) : Grid :=
  let g := match style.fill with
    | some color => g.setFill a color
    | none => g
  if style.hasBorder then g.setBorder a else g

/-- Puts a cell that has been read into the grid. -/
def put (shared : Shared) (g : Grid) (cell : OpenCell) : Reading Grid := do
  let a ← match Address.parse cell.reference with
    | .ok a => pure a
    | .error e => throw (.badReference cell.reference e)
  let style := (cell.style.bind fun i => shared.styles[i]?).getD {}
  let g := applyStyle g a style
  match ← value shared style.isDate cell with
  | some v => return g.setValue a v
  | none => return g.setStyled a

/-! ## The part -/

/-- Reads the start of an element, which has content if it stays open. -/
def start (shared : Shared) (s : State) (e : Markup.Element) (staysOpen : Bool) :
    Reading State :=
  let metrics (f : Metrics → Markup.Element → Metrics) : State :=
    { s with grid := { s.grid with metrics := f s.grid.metrics e } }
  match e.name with
  | "sheetFormatPr" => return metrics defaults
  | "col" => return metrics columns
  | "row" => return metrics row
  | "c" =>
    if staysOpen then return { s with cell := openCell? e }
    else
      match openCell? e with
      | some cell => do return { s with grid := ← put shared s.grid cell }
      | none => return s
  | "v" => return if s.cell.isSome then { s with inValue := staysOpen } else s
  | "is" => return if s.cell.isSome then { s with inInline := staysOpen } else s
  | "t" => return if s.inInline then { s with inInlineText := staysOpen } else s
  | "hyperlink" =>
    match e.get? "ref" with
    | some reference =>
      return { s with links := s.links ++ [⟨reference, e.get? "r:id", e.get? "location"⟩] }
    | none => return s
  | "tablePart" =>
    match e.get? "r:id" with
    | some id => return { s with tableIds := s.tableIds ++ [id] }
    | none => return s
  | _ => return s

/-- Reads the end of an element. -/
def finish (shared : Shared) (s : State) (name : String) : Reading State :=
  match name with
  | "c" => do
    let grid ← match s.cell with
      | some cell => put shared s.grid cell
      | none => pure s.grid
    return { s with
      grid, cell := none, inValue := false, inInline := false, inInlineText := false }
  | "v" => return { s with inValue := false }
  | "is" => return { s with inInline := false }
  | "t" => return { s with inInlineText := false }
  | _ => return s

/-- Adds a run of text to a cell: to its value if one is being read, and else to its own text. -/
def OpenCell.add (cell : OpenCell) (toValue : Bool) (t : String) : OpenCell :=
  if toValue then { cell with value := some (cell.value.getD "" ++ t) }
  else { cell with inline := cell.inline ++ t }

/-- Reads one event. -/
def step (shared : Shared) (s : State) : Markup.Event → Reading State
  | .opening e => start shared s e true
  | .selfClosing e => start shared s e false
  | .closing name => finish shared s name
  | .text t =>
    return if s.inValue || s.inInlineText then
      { s with cell := s.cell.map fun cell => cell.add s.inValue t }
    else s

/-- What the events of the part say. -/
def ofEvents (shared : Shared) (es : Markup.Events) : Reading State := do
  let s ← es.events.foldlM (step shared) {}
  liftExcept es.checked
  return s

/-! ## Links and tables -/

/-- The target of a link: what its identifier refers to, a place in the workbook, or both. -/
def OpenLink.target? (l : OpenLink) (rels : Relationships) : Option String :=
  match l.id, l.location with
  | some id, location =>
    (rels.get? id).map fun r =>
      match location with
      | some place => if place = "" then r.target else r.target ++ "#" ++ place
      | none => r.target
  | none, some place => some ("#" ++ place)
  | none, none => none

/-- Attaches a link to the first cell of its range. -/
def attach (rels : Relationships) (g : Grid) (l : OpenLink) : Grid :=
  match Reference.rect? l.reference, l.target? rels with
  | some b, some target => g.setLink b.first target
  | _, _ => g

/-- The range in the part of a table, which the first table in it declares. -/
def tableReference (es : Markup.Events) : Except ReadError (Option String) :=
  match (es.events.filterMap Markup.Event.element?).find? fun e => e.name = "table" with
  | some e => .ok (e.get? "ref")
  | none => es.checked.map fun _ => none

/--
Adds the table that a relationship of the sheet at `path` refers to. One whose part is not there is
left out.
-/
def addTable (p : Package) (path : String) (rels : Relationships) (g : Grid) (id : String) :
    Reading Grid :=
  match rels.get? id with
  | none => return g
  | some r =>
    if r.isExternal then return g
    else do
      let table := Package.resolve path r.target
      match p.events? .trimmed table with
      | none => return g
      | some es =>
        match ← liftExcept (tableReference es) with
        | some reference => return g.addTable reference
        | none => return g

/-- The grid of the sheet at `path`. -/
def read (p : Package) (shared : Shared) (path : String) : Reading Grid := do
  let some es := p.events? .kept path | throw (.missingPart path)
  let s ← ofEvents shared es
  if s.links.isEmpty && s.tableIds.isEmpty then return s.grid
  let rels ← liftExcept (Relationships.read? p (Package.relationshipsPath path))
  let rels := rels.getD ∅
  s.tableIds.foldlM (addTable p path rels) (s.links.foldl (attach rels) s.grid)

end Sheetwise.Worksheet
