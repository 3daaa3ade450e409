import Sheetwise.Markup.Token
import Sheetwise.Text.Numeral

/-!
# Entities

Text and attribute values write some characters as entities, between an ampersand and a semicolon: by
one of five names or by their number. Bytes that are no text, and text with an ampersand that starts
no entity, cannot be read at all.
-/

namespace Sheetwise.Markup

/-- The character with a number, written in digits of which there may be only so many. -/
def numbered? (most : Nat) (value? : List Char → Option Nat) (digits : List Char) : Option Char := do
  if most < digits.length then none
  let n ← value? digits
  if n = 0 then none
  Text.scalar? n

/-- The value of a decimal digit. -/
def decimalValue? (c : Char) : Option Nat :=
  if Text.isDigit c then some (Text.digitValue c) else none

/-- The character that an entity stands for. -/
def entity? : List Char → Option Char
  | '#' :: 'x' :: digits => numbered? 6 Text.hex? digits
  | '#' :: digits => numbered? 7 (Text.valueInBase? 10 decimalValue?) digits
  | name =>
    [("lt", '<'), ("gt", '>'), ("amp", '&'), ("apos", '\''), ("quot", '"')].lookup
      (String.ofList name)

/-- Whether a character may stand between the two ends of an entity. -/
def inEntity (c : Char) : Bool := c ≠ '&' && c ≠ ';'

/-- A text with every entity replaced by its character. -/
def resolve? : List Char → Option (List Char)
  | [] => some []
  | c :: rest =>
    if c = '&' then
      match (rest.dropWhile inEntity).head? with
      | some ';' => do
        let x ← entity? (rest.takeWhile inEntity)
        let more ← resolve? ((rest.dropWhile inEntity).drop 1)
        return x :: more
      | _ => none
    else (resolve? rest).map (c :: ·)
termination_by cs => cs.length
decreasing_by
  · have := (List.dropWhile_sublist (l := rest) inEntity).length_le
    simp only [List.length_drop, List.length_cons]
    omega
  · exact Nat.lt_succ_self _

/-- The text that bytes stand for. -/
def textOf? (bs : Bytes) : Option String := do
  let s ← String.fromUTF8? (ByteArray.mk bs.toArray)
  return String.ofList (← resolve? s.toList)

end Sheetwise.Markup
