import Sheetwise.Text.Numeral

/-!
# Escaped characters in cell texts

A text in a file writes characters that markup cannot hold as `_x`, four hexadecimal digits and `_`:
a carriage return is `_x000D_`. Whatever only looks like an escape stands for itself.
-/

namespace Sheetwise.Text

/-- The hexadecimal digits that a text starts with, four at most. -/
def leadingHex (cs : List Char) : List Char := (cs.take 4).takeWhile isHexDigit

/-- The character that four hexadecimal digits and an underscore denote. -/
def escapedChar? (digits after : List Char) : Option Char :=
  if digits.length = 4 ∧ after.head? = some '_' then (hex? digits).bind scalar? else none

/-- A text with every escape replaced by its character, from left to right. -/
def unescape : List Char → List Char
  | [] => []
  | '_' :: 'x' :: rest =>
    let digits := leadingHex rest
    let after := rest.drop digits.length
    match escapedChar? digits after with
    | some c => c :: unescape (after.drop 1)
    | none => '_' :: 'x' :: (digits ++ unescape after)
  | c :: rest => c :: unescape rest
termination_by cs => cs.length
decreasing_by
  all_goals simp only [List.length_drop, List.length_cons]
  all_goals omega

/-- A text with every escape replaced by its character. -/
def unescapeText (s : String) : String := String.ofList (unescape s.toList)

end Sheetwise.Text
