import Sheetwise.Grid
import Sheetwise.Sheet
import Sheetwise.Text.Numeral

/-!
# Colours of a sheet

Which cells are painted in which colour. Colours are compared by their key, six hexadecimal digits in
upper case; some may be left out, and cells that are there without a fill may be counted as painted
in the default background.
-/

namespace Sheetwise

/-- What to report of a sheet's colours. -/
structure ColorOptions where
  /-- Report cells without a fill under the default background. -/
  includeDefaultBackground : Bool := false
  /-- The colours to leave out, in any spelling. -/
  ignoreColors : List String := []
deriving Inhabited

namespace Color

/-- The colour of cells without a fill. -/
def defaultBackground : String := "FFFFFF"

/-- What follows the first two bytes, if a character begins there. -/
def afterTwoBytes? : List Char → Option (List Char)
  | [] => none
  | a :: rest =>
    if a.utf8Size = 2 then some rest
    else
      match rest with
      | b :: rest => if a.utf8Size = 1 ∧ b.utf8Size = 1 then some rest else none
      | [] => none

/-- A colour without blanks around it and number signs in front. -/
def bare (s : String) : List Char := (Text.trimChars s.toList).dropWhile (· = '#')

/--
The key of a colour: without number signs in front, without the first two of eight digits, which are
its opacity, and in upper case. Lengths are counted in bytes, and eight bytes that cannot be cut after
the second stay as they are.
-/
def key (s : String) : String :=
  let cs := bare s
  let cs := if Text.utf8Length cs = 8 then (afterTwoBytes? cs).getD cs else cs
  String.ofList (cs.map Char.toUpper)

/--
The key of a colour written as six hexadecimal digits, or as eight of which the first two are its
opacity. Eight bytes are cut after the second before they are looked at, which may split a character.
-/
def ofHex? (s : String) : Checked (Option String) :=
  let cs := bare s
  let digits (cs : List Char) : Option String :=
    if cs.all Text.isHexDigit then some (String.ofList (cs.map Char.toUpper)) else none
  match Text.utf8Length cs with
  | 8 =>
    match afterTwoBytes? cs with
    | some cs => .ok (digits cs)
    | none => .error .splitCharacter
  | 6 => .ok (digits cs)
  | _ => .ok none

/-- The painted cells of a grid with the keys of their colours. -/
def painted (g : Grid) (options : ColorOptions) : List (String × Address) :=
  let ignored := options.ignoreColors.map key
  let fills := (g.fills.toList.map fun e => (key e.2, e.1)).filter fun p => !ignored.contains p.1
  let unfilled :=
    if options.includeDefaultBackground && !ignored.contains defaultBackground then
      (g.styled.keys.filter fun a => !g.fills.contains a).map fun a => (defaultBackground, a)
    else []
  fills ++ unfilled

/-- One more cell under a key. -/
def add (m : SortedMap String (SortedSet Address)) (p : String × Address) :
    SortedMap String (SortedSet Address) :=
  m.insert p.1 (SortedSet.insert ((m.get? p.1).getD ∅) p.2)

/-- The cells under each colour, sorted, with rows numbered from one. -/
def map (g : Grid) (options : ColorOptions) : ColorMap :=
  ((painted g options).foldl add ∅).map fun _ cells =>
    cells.keys.map fun a => (a.row + 1, a.col)

end Color

end Sheetwise
