import Sheetwise.Json.Basic
import Sheetwise.Json.Written

/-!
# Reading JSON text

What a written value means. Beyond the grammar there are limits: half of a surrogate pair is no
character, a number too large for a double is refused, and so are brackets nested deeper than
`maxDepth`. A whole number that fits no 64 bits is read as a floating-point one.

A decimal is read as the double nearest to it. There are readers that are content with a neighbour of
that double where a number has many digits, for the sake of speed. They differ from this one in the last
bit of such a number and in nothing else.
-/

namespace Sheetwise.Json

/-- How deep arrays and objects may be nested. -/
def maxDepth : Nat := 127

/-- The characters of a string from its spelling. -/
def unescape? : List Char → Option (List Char)
  | [] => some []
  | '\\' :: 'u' :: a :: b :: c :: d :: rest =>
    match Text.hex? [a, b, c, d] with
    | none => none
    | some n =>
      if 0xD800 ≤ n ∧ n ≤ 0xDBFF then
        match rest with
        | '\\' :: 'u' :: e :: f :: g :: h :: rest =>
          match Text.hex? [e, f, g, h] with
          | none => none
          | some m =>
            if 0xDC00 ≤ m ∧ m ≤ 0xDFFF then
              (unescape? rest).map
                (Char.ofNat (0x10000 + (n - 0xD800) * 0x400 + (m - 0xDC00)) :: ·)
            else none
        | _ => none
      else if 0xDC00 ≤ n ∧ n ≤ 0xDFFF then none
      else (unescape? rest).map (Char.ofNat n :: ·)
  | '\\' :: e :: rest =>
    match escaped? e with
    | none => none
    | some c => (unescape? rest).map (c :: ·)
  | c :: rest => (unescape? rest).map (c :: ·)

/-- A number that is no infinity, as a value. -/
def finite? (x : Float) : Option Json := if Binary64.isFinite x then some (.float x) else none

/-- The value of a number. -/
def Numeral.value? (n : Numeral) : Option Json :=
  match n.fraction, n.exponent with
  | [], none =>
    let size := Text.digitsValue n.whole
    if n.negative = false ∧ size < Nat.pow 2 64 then some (.int size)
    else if n.negative ∧ 0 < size ∧ size ≤ Nat.pow 2 63 then some (.int (-(size : Int)))
    else finite? (Text.nearestDecimal n.negative size 0)
  | _, _ =>
    finite? (Text.nearestDecimal n.negative (Text.digitsValue (n.whole ++ n.fraction))
      (n.exponent.getD 0 - (n.fraction.length : Int)))

namespace Written

mutual

/-- What a written value means, nested at most `depth` deep. -/
def value? (depth : Nat) : Written → Option Json
  | .null => some .null
  | .bool b => some (.bool b)
  | .number n => n.value?
  | .str s => (unescape? s).map fun s => .str (String.ofList s)
  | .arr items =>
    match depth with
    | 0 => none
    | depth + 1 => (values? depth items).map .arr
  | .obj members =>
    match depth with
    | 0 => none
    | depth + 1 => (entries? depth members).map .obj

/-- What the items of an array mean. -/
def values? (depth : Nat) : List Written → Option (List Json)
  | [] => some []
  | w :: ws =>
    match value? depth w, values? depth ws with
    | some x, some xs => some (x :: xs)
    | _, _ => none

/-- What the members of an object mean. -/
def entries? (depth : Nat) : List (List Char × Written) → Option (List (String × Json))
  | [] => some []
  | (name, w) :: ms =>
    match unescape? name, value? depth w, entries? depth ms with
    | some name, some x, some entries => some ((String.ofList name, x) :: entries)
    | _, _, _ => none

end

end Written

/-- Reads a text that holds one value and nothing else. -/
def ofText? (s : String) : Option Json :=
  (Written.ofText? s).bind (Written.value? maxDepth)

end Sheetwise.Json
