import Sheetwise.Text.Numeral

/-!
# JSON as it is written

The grammar of RFC 8259, strictly: no trailing text, no leading zeros, no control characters inside
strings. A text is taken apart by the grammar alone. Numbers stay digits and strings keep their
escapes, so nothing is too large, too deep or half a character here; what a written value means is
decided by whoever reads it.
-/

namespace Sheetwise.Json

/-- A number as it is written: its sign, its digits on both sides of the point, and its exponent. -/
structure Numeral where
  negative : Bool
  whole : List Char
  fraction : List Char
  exponent : Option Int

/-- A value as it is written. Strings and names are spelled with their escapes. -/
inductive Written where
  | null
  | bool (b : Bool)
  | number (n : Numeral)
  | str (spelling : List Char)
  | arr (items : List Written)
  | obj (members : List (List Char × Written))

/-- The characters that may stand between tokens. -/
def isSpace (c : Char) : Bool := c = ' ' || c = '\n' || c = '\t' || c = '\r'

/-- The text from its first character that is not a space. -/
def skipSpaces (cs : List Char) : List Char := cs.dropWhile isSpace

/-- The character that a letter stands for after a backslash. -/
def escaped? : Char → Option Char
  | '"' => some '"'
  | '\\' => some '\\'
  | '/' => some '/'
  | 'b' => some '\x08'
  | 'f' => some '\x0c'
  | 'n' => some '\n'
  | 'r' => some '\r'
  | 't' => some '\t'
  | _ => none

/-- The spelling of a string after its opening quotation mark, and what follows the closing one. -/
def spelling? : List Char → Option (List Char × List Char)
  | [] => none
  | '"' :: rest => some ([], rest)
  | '\\' :: 'u' :: a :: b :: c :: d :: rest =>
    if [a, b, c, d].all Text.isHexDigit then
      (spelling? rest).map fun (s, rest) => ('\\' :: 'u' :: a :: b :: c :: d :: s, rest)
    else none
  | '\\' :: e :: rest =>
    if (escaped? e).isSome then (spelling? rest).map fun (s, rest) => ('\\' :: e :: s, rest)
    else none
  | c :: rest =>
    if c.toNat < 0x20 then none else (spelling? rest).map fun (s, rest) => (c :: s, rest)

/-- The digits behind a point, none if there is no point, and what follows them. -/
def fractionPart? : List Char → Option (List Char × List Char)
  | '.' :: tail =>
    let digits := tail.takeWhile Text.isDigit
    if digits = [] then none else some (digits, tail.dropWhile Text.isDigit)
  | cs => some ([], cs)

/-- The sign and digits of an exponent, after its letter. -/
def exponentDigits? (cs : List Char) : Option (Int × List Char) :=
  let (negative, cs) := match cs with
    | '-' :: rest => (true, rest)
    | '+' :: rest => (false, rest)
    | _ => (false, cs)
  let digits := cs.takeWhile Text.isDigit
  if digits = [] then none
  else
    let n : Int := Text.digitsValue digits
    some (if negative then -n else n, cs.dropWhile Text.isDigit)

/-- An exponent, if there is one, and what follows it. -/
def exponentPart? : List Char → Option (Option Int × List Char)
  | 'e' :: tail => (exponentDigits? tail).map fun (e, rest) => (some e, rest)
  | 'E' :: tail => (exponentDigits? tail).map fun (e, rest) => (some e, rest)
  | cs => some (none, cs)

/-- Whether a minus sign is written, and what follows it. -/
def minus : List Char → Bool × List Char
  | '-' :: rest => (true, rest)
  | cs => (false, cs)

/-- A number and what follows it. -/
def numeral? (cs : List Char) : Option (Numeral × List Char) :=
  let (negative, cs) := minus cs
  let whole := cs.takeWhile Text.isDigit
  if whole = [] ∨ (whole.head? = some '0' ∧ 1 < whole.length) then none
  else do
    let (fraction, rest) ← fractionPart? (cs.dropWhile Text.isDigit)
    let (exponent, rest) ← exponentPart? rest
    return ({ negative, whole, fraction, exponent }, rest)

/-- The text after a word that it begins with. -/
def afterWord? : List Char → List Char → Option (List Char)
  | [], cs => some cs
  | w :: word, c :: cs => if w = c then afterWord? word cs else none
  | _ :: _, [] => none

namespace Written

mutual

/-- A value and what follows it. -/
def value : Nat → List Char → Option (Written × List Char)
  | 0, _ => none
  | fuel + 1, cs =>
    match skipSpaces cs with
    | '"' :: rest => (spelling? rest).map fun (s, rest) => (.str s, rest)
    | '[' :: rest =>
      match skipSpaces rest with
      | ']' :: rest => some (.arr [], rest)
      | _ => (items fuel rest).map fun (xs, rest) => (.arr xs, rest)
    | '\x7b' :: rest =>
      match skipSpaces rest with
      | '\x7d' :: rest => some (.obj [], rest)
      | _ => (members fuel rest).map fun (ms, rest) => (.obj ms, rest)
    | 'n' :: rest => (afterWord? ['u', 'l', 'l'] rest).map fun rest => (.null, rest)
    | 't' :: rest => (afterWord? ['r', 'u', 'e'] rest).map fun rest => (.bool true, rest)
    | 'f' :: rest => (afterWord? ['a', 'l', 's', 'e'] rest).map fun rest => (.bool false, rest)
    | cs => (numeral? cs).map fun (n, rest) => (.number n, rest)

/-- The items of an array up to its closing bracket. -/
def items : Nat → List Char → Option (List Written × List Char)
  | 0, _ => none
  | fuel + 1, cs =>
    match value fuel cs with
    | none => none
    | some (x, rest) =>
      match skipSpaces rest with
      | ',' :: rest => (items fuel rest).map fun (xs, rest) => (x :: xs, rest)
      | ']' :: rest => some ([x], rest)
      | _ => none

/-- The members of an object up to its closing brace. -/
def members : Nat → List Char → Option (List (List Char × Written) × List Char)
  | 0, _ => none
  | fuel + 1, cs =>
    match skipSpaces cs with
    | '"' :: rest =>
      match spelling? rest with
      | none => none
      | some (name, rest) =>
        match skipSpaces rest with
        | ':' :: rest =>
          match value fuel rest with
          | none => none
          | some (x, rest) =>
            match skipSpaces rest with
            | ',' :: rest => (members fuel rest).map fun (ms, rest) => ((name, x) :: ms, rest)
            | '\x7d' :: rest => some ([(name, x)], rest)
            | _ => none
        | _ => none
    | _ => none

end

/-- The value written by a text that holds one and nothing else. -/
def ofText? (s : String) : Option Written :=
  let cs := s.toList
  match value (cs.length + 1) cs with
  | some (w, rest) => if skipSpaces rest = [] then some w else none
  | none => none

end Written

end Sheetwise.Json
