import Sheetwise.Json.Basic

/-!
# Writing JSON text

Values as text without spaces. In strings only the quotation mark, the backslash and the control
characters are escaped; all else is written as it is. A floating-point number always shows that it
is one, by a point or an exponent.
-/

namespace Sheetwise.Json

/-- A digit of a hexadecimal number, in lower case. -/
def hexDigit (n : Nat) : Char :=
  if n < 10 then Char.ofNat ('0'.toNat + n) else Char.ofNat ('a'.toNat + (n - 10))

/-- A character of a string as it is written. -/
def escape (c : Char) : List Char :=
  if c = '"' then ['\\', '"']
  else if c = '\\' then ['\\', '\\']
  else if c = '\x08' then ['\\', 'b']
  else if c = '\t' then ['\\', 't']
  else if c = '\n' then ['\\', 'n']
  else if c = '\x0c' then ['\\', 'f']
  else if c = '\r' then ['\\', 'r']
  else if c.toNat < 0x20 then
    ['\\', 'u', '0', '0', hexDigit (c.toNat / 16), hexDigit (c.toNat % 16)]
  else [c]

/-- A string in quotation marks. -/
def quoted (s : String) : List Char :=
  '"' :: (s.toList.flatMap escape ++ ['"'])

/-- How many digits a number may have before its point, and zeros after it, to be written in full. -/
def plainDigits : Int := 16

/-- The digits of a double with their exponent, with no zeros at their end. -/
def decimal (x : Float) : Nat × Int :=
  let magnitude := Binary64.magnitudeBits x
  if magnitude = 0 then (0, 0)
  else
    let digits := Text.shortestDigits magnitude
    Text.dropZeros 20 digits.1 digits.2

/-- The digits of a finite number: in full if it is of moderate size, else with an exponent. -/
def floatChars (x : Float) : List Char :=
  let (d, e) := decimal x
  let ds := Text.digitsOf d
  let point : Int := ds.length + e
  let body :=
    if 0 ≤ e ∧ point ≤ plainDigits then Text.positional d e ++ ['.', '0']
    else if -5 < point ∧ point ≤ plainDigits then Text.positional d e
    else
      ds.take 1 ++ (if 1 < ds.length then '.' :: ds.drop 1 else []) ++
        'e' :: (Text.ofInt (point - 1)).toList
  if Binary64.isNegative x then '-' :: body else body

/-- Lists joined by a comma. -/
def joinCommas : List (List Char) → List Char
  | [] => []
  | [x] => x
  | x :: xs => x ++ ',' :: joinCommas xs

mutual

/-- The characters of a value. -/
def chars : Json → List Char
  | .null => "null".toList
  | .bool true => "true".toList
  | .bool false => "false".toList
  | .int n => (Text.ofInt n).toList
  | .float x => if Binary64.isFinite x then floatChars x else "null".toList
  | .str s => quoted s
  | .arr xs => '[' :: (joinCommas (itemChars xs) ++ [']'])
  | .obj ms => '\x7b' :: (joinCommas (memberChars ms) ++ ['\x7d'])

/-- The characters of each item of an array. -/
def itemChars : List Json → List (List Char)
  | [] => []
  | x :: xs => chars x :: itemChars xs

/-- The characters of each member of an object. -/
def memberChars : List (String × Json) → List (List Char)
  | [] => []
  | (name, x) :: ms => (quoted name ++ ':' :: chars x) :: memberChars ms

end

/-- A value as text. -/
def text (j : Json) : String := String.ofList j.chars

end Sheetwise.Json
