import Sheetwise.Text.Numeral

/-!
# Series formulas

A chart says where a series takes its data from by a formula `=SERIES(name, categories, values,
order)`. Each of the first three arguments is a reference, which is kept as it is written, or it is
empty or a literal, which is not. Commas separate arguments only outside quotation marks, apostrophes
and brackets.
-/

namespace Sheetwise

/-- The references in a series formula. -/
structure SeriesRefs where
  name : Option String := none
  x : Option String := none
  y : Option String := none
deriving DecidableEq, Inhabited

namespace SeriesFormula

/-- Where a scan of the arguments stands: inside which quotes, and how deep in brackets. -/
structure Nesting where
  inApostrophes : Bool := false
  inQuotes : Bool := false
  depth : Nat := 0
deriving DecidableEq

/-- Whether a scan is outside quotes of both kinds. -/
def Nesting.isOpen (n : Nesting) : Bool := !n.inApostrophes && !n.inQuotes

/-- Where a scan stands after a character. -/
def Nesting.after (n : Nesting) (c : Char) : Nesting :=
  if c = '\'' ∧ n.inQuotes = false then { n with inApostrophes := !n.inApostrophes }
  else if c = '"' ∧ n.inApostrophes = false then { n with inQuotes := !n.inQuotes }
  else if (c = '(' ∨ c = '\x7b') ∧ n.isOpen then { n with depth := n.depth + 1 }
  else if (c = ')' ∨ c = '\x7d') ∧ n.isOpen then { n with depth := n.depth - 1 }
  else n

/-- Whether a character separates two arguments. -/
def Nesting.separates (n : Nesting) (c : Char) : Bool :=
  c == ',' && n.isOpen && n.depth == 0

/-- The text cut at the commas that separate arguments. -/
def splitArguments (n : Nesting) : List Char → List (List Char)
  | [] => [[]]
  | c :: cs =>
    if n.separates c then [] :: splitArguments n cs
    else
      match splitArguments (n.after c) cs with
      | [] => [[c]]
      | arg :: args => (c :: arg) :: args

/-- The reference that an argument is, unless it is empty, a text, an array or a number. -/
def reference? (arg : List Char) : Option String :=
  let text := String.ofList (Text.trimChars arg)
  match text.toList with
  | [] => none
  | c :: _ => if c = '"' ∨ c = '\x7b' ∨ (Text.float? text).isSome then none else some text

/-- Reads the references out of a series formula, given as characters. -/
def ofChars? (cs : List Char) : Option SeriesRefs :=
  let body := Text.trimChars ((Text.trimChars cs).dropWhile (· = '='))
  let name := body.takeWhile (· ≠ '(')
  match body.dropWhile (· ≠ '(') with
  | [] => none
  | _ :: rest =>
    if (Text.trimChars name).map Char.toUpper = "SERIES".toList ∧ body.getLast? = some ')' then
      let args := splitArguments {} rest.dropLast
      let argument (i : Nat) := args[i]?.bind reference?
      some { name := argument 0, x := argument 1, y := argument 2 }
    else none

/-- Reads the references out of a series formula. -/
def parse? (formula : String) : Option SeriesRefs := ofChars? formula.toList

end SeriesFormula

end Sheetwise
