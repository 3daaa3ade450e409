import Sheetwise.Rect

/-!
# References

A reference names a rectangle of a sheet: two corners, a single cell, whole columns or whole rows,
with the name of the sheet in front if it matters. The name is set off by an exclamation mark and may
stand in apostrophes, where an apostrophe that belongs to it is written twice. Commas join several
references to a list.

This is the only place where text is turned into rows and columns. Text that is no reference gives
`none`: a reader of workbooks meets a lot of it, and skips it.
-/

namespace Sheetwise.Reference

/-- The apostrophe, which quotes the name of a sheet. -/
def quote : Char := '\''

/-- The text around the last exclamation mark outside apostrophes, if there is one. -/
def splitBang (quoted : Bool) : List Char → Option (List Char × List Char)
  | [] => none
  | c :: cs =>
    match splitBang (if c = quote then !quoted else quoted) cs with
    | some (before, after) => some (c :: before, after)
    | none => if c = '!' ∧ quoted = false then some ([], cs) else none

/-- The name of a sheet as it is called, without the apostrophes that quote it. -/
def unquote (cs : List Char) : List Char :=
  if 2 ≤ cs.length ∧ cs.head? = some quote ∧ cs.getLast? = some quote
  then Text.undouble quote (cs.drop 1).dropLast
  else cs

/-- The name of a sheet in apostrophes. -/
def quoteName (cs : List Char) : List Char :=
  quote :: (Text.double quote cs ++ [quote])

/-- The sheet that a reference names, if it does, and the rest of the reference. -/
def splitSheet (cs : List Char) : Option (List Char) × List Char :=
  match splitBang false cs with
  | none => (none, cs)
  | some (before, after) => (some (unquote (Text.trimChars before)), after)

/-- The sheet and the rest of a reference given as text. -/
def splitSheetText (s : String) : Option String × String :=
  let (sheet, body) := splitSheet s.toList
  (sheet.map String.ofList, String.ofList body)

/-- The range in a reference, if it is on `sheet`; a reference that names no sheet is. -/
def onSheet? (s sheet : String) : Option String :=
  match splitSheetText s with
  | (none, body) => some (Text.trim body)
  | (some name, body) => if name = sheet then some (Text.trim body) else none

/-- One end of a range. -/
inductive Endpoint where
  | cell (a : Address)
  | column (col : Nat)
  | row (row : Nat)
deriving DecidableEq

/--
Reads one end of a range: letters alone are a column, digits alone are a row, both are a cell. Dollar
signs are passed over before telling these apart.
-/
def Endpoint.ofChars? (cs : List Char) : Option Endpoint :=
  let bare := (Text.trimChars cs).filter (· ≠ '$')
  if bare = [] then none
  else if bare.all Text.isLetter then (Column.ofLetters bare).toOption.map .column
  else if bare.all Text.isDigit then (Row.ofNumber? bare).map .row
  else (Address.ofChars cs).toOption.map .cell

/-- The rectangle between two ends of one kind. -/
def Endpoint.span? : Endpoint → Endpoint → Option Rect
  | .cell a, .cell b => some (.ofCorners a.row a.col b.row b.col)
  | .column a, .column b => some (.ofCorners 0 a (maxRows - 1) b)
  | .row a, .row b => some (.ofCorners a 0 b (maxColumns - 1))
  | _, _ => none

/-- Reads a range without the name of a sheet: one cell, or two ends joined by a colon. -/
def body? (cs : List Char) : Option Rect :=
  if cs = [] then none
  else
    match cs.splitOn ':' with
    | [one] => (Address.ofChars one).toOption.map fun a => .cell a.row a.col
    | [first, second] => do
      let a ← Endpoint.ofChars? first
      let b ← Endpoint.ofChars? second
      a.span? b
    | _ => none

/-- Reads a reference, whatever sheet it names. -/
def range? (cs : List Char) : Option Rect :=
  body? (Text.trimChars (splitSheet (Text.trimChars cs)).2)

/-- The rectangle that a reference denotes. -/
def rect? (s : String) : Option Rect :=
  range? s.toList

/-- The text cut at the commas outside apostrophes. -/
def splitCommas (quoted : Bool) : List Char → List (List Char)
  | [] => [[]]
  | c :: cs =>
    if c = ',' ∧ quoted = false then [] :: splitCommas quoted cs
    else
      match splitCommas (if c = quote then !quoted else quoted) cs with
      | [] => [[c]]
      | part :: parts => (c :: part) :: parts

/-- The references of a list, trimmed, without the blank ones. -/
def areas (cs : List Char) : List (List Char) :=
  ((splitCommas false cs).map Text.trimChars).filter (· ≠ [])

/-- The references of a list given as text. -/
def areaTexts (s : String) : List String :=
  (areas s.toList).map String.ofList

end Sheetwise.Reference
