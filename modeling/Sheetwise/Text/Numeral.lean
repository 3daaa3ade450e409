import Sheetwise.Binary64
import Sheetwise.Text.Basic

/-!
# Numerals

Numbers written as text. Integers are an optional sign and digits, with no blanks and a limit on
their size. Decimals may carry a point and an exponent, and name the double nearest to the number
written, a tie going to the even neighbour. Hexadecimal numbers are digits alone; they write characters
in markup, in escapes and in JSON, and colours in styles.
-/

namespace Sheetwise.Text

/-- The value of a digit. -/
def digitValue (c : Char) : Nat :=
  c.toNat - '0'.toNat

/-- The number that a run of digits denotes. -/
def digitsValue (cs : List Char) : Nat :=
  cs.foldl (fun n c => 10 * n + digitValue c) 0

/-- The natural number written by digits alone. -/
def digits? (cs : List Char) : Option Nat :=
  if cs ≠ [] ∧ cs.all isDigit then some (digitsValue cs) else none

/-- A natural number of at most `max`, with an optional plus sign. -/
def natural? (max : Nat) (cs : List Char) : Option Nat :=
  let body := match cs with
    | '+' :: rest => rest
    | _ => cs
  (digits? body).filter (· ≤ max)

/-- An integer from `min` to `max`, with an optional sign. -/
def integer? (min max : Int) (cs : List Char) : Option Int :=
  let value : Option Int := match cs with
    | '-' :: rest => (digits? rest).map fun n => -(n : Int)
    | '+' :: rest => (digits? rest).map fun n => (n : Int)
    | _ => (digits? cs).map fun n => (n : Int)
  value.filter fun n => decide (min ≤ n) && decide (n ≤ max)

/-- The largest number that 32 bits hold without a sign. -/
def maxWord : Nat := 4294967295

/-- The largest number that 64 bits hold without a sign. -/
def maxLongWord : Nat := 18446744073709551615

/-- A natural number below `2 ^ 32`, with an optional plus sign. -/
def word? (s : String) : Option Nat :=
  natural? maxWord s.toList

/--
The double nearest to `mantissa * 10 ^ exponent`. A number of more than 400 places before the
point is beyond every double, and one that starts more than 400 places after it is nearest to zero.
-/
def nearestDecimal (negative : Bool) (mantissa : Nat) (exponent : Int) : Float :=
  -- a decimal digit is between three and four binary ones
  if mantissa = 0 ∨ exponent + (mantissa.log2 / 3 : Nat) < -400 then Binary64.nearest negative 0 1
  else if exponent + (mantissa.log2 / 4 : Nat) > 400 then Binary64.nearest negative (Nat.pow 10 400) 1
  else if 0 ≤ exponent then Binary64.nearest negative (mantissa * Nat.pow 10 exponent.toNat) 1
  else Binary64.nearest negative mantissa (Nat.pow 10 (-exponent).toNat)

/-- The exponent part of a decimal, after its `e`: an optional sign and at least one digit. -/
def exponent? : List Char → Option Int
  | '-' :: cs => (digits? cs).map fun n => -(n : Int)
  | '+' :: cs => (digits? cs).map fun n => (n : Int)
  | cs => (digits? cs).map fun n => (n : Int)

/-- A decimal without its sign: digits with an optional point among them, then an optional exponent. -/
def unsignedDecimal? (negative : Bool) (cs : List Char) : Option Float :=
  let whole := cs.takeWhile isDigit
  let afterWhole := cs.dropWhile isDigit
  let (fraction, rest) := match afterWhole with
    | '.' :: tail => (tail.takeWhile isDigit, tail.dropWhile isDigit)
    | _ => ([], afterWhole)
  if whole ++ fraction = [] then none
  else
    let value (e : Int) := nearestDecimal negative (digitsValue (whole ++ fraction))
      (e - (fraction.length : Int))
    match rest with
    | [] => some (value 0)
    | c :: tail => if c = 'e' ∨ c = 'E' then (exponent? tail).map value else none

/-- The words that stand for a number, in any case. -/
def numberWord? (negative : Bool) (cs : List Char) : Option Float :=
  let word := String.ofList (cs.map Char.toLower)
  let signed (x : Float) := if negative then -x else x
  if word = "inf" ∨ word = "infinity" then some (signed (1.0 / 0.0))
  else if word = "nan" then some (0.0 / 0.0)
  else none

/--
The double written by a text: an optional sign, then digits with an optional point and exponent, or
one of the words `inf`, `infinity` and `nan`.
-/
def float? (s : String) : Option Float :=
  let read (negative : Bool) (cs : List Char) :=
    (unsignedDecimal? negative cs).or (numberWord? negative cs)
  match s.toList with
  | '-' :: cs => read true cs
  | '+' :: cs => read false cs
  | cs => read false cs

/-! ## Hexadecimal numbers -/

/-- The value of a hexadecimal digit, of either case. -/
def hexValue? (c : Char) : Option Nat :=
  if '0' ≤ c ∧ c ≤ '9' then some (c.toNat - '0'.toNat)
  else if 'a' ≤ c ∧ c ≤ 'f' then some (c.toNat - 'a'.toNat + 10)
  else if 'A' ≤ c ∧ c ≤ 'F' then some (c.toNat - 'A'.toNat + 10)
  else none

/-- Whether a character is a hexadecimal digit. -/
def isHexDigit (c : Char) : Bool := (hexValue? c).isSome

/-- The number that digits denote in a base, given what each of them is worth. -/
def valueInBase? (base : Nat) (digit? : Char → Option Nat) (cs : List Char) : Option Nat :=
  cs.foldlM (fun n c => (digit? c).map fun d => n * base + d) 0

/-- The number that hexadecimal digits denote. -/
def hex? (cs : List Char) : Option Nat := valueInBase? 16 hexValue? cs

/-- The character with a code, unless the code is half of a surrogate pair or beyond all characters. -/
def scalar? (n : Nat) : Option Char :=
  if n.isValidChar then some (Char.ofNat n) else none

end Sheetwise.Text
