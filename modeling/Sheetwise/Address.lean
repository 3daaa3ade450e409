import Sheetwise.SortedMap
import Sheetwise.Text.Shortest

/-!
# Cell addresses

Cells are named by column letters and a row number, as in `$B$12`. Inside the library both axes
count from zero. Letters are a numeral system with digits `A` to `Z` and no zero, so every column has
exactly one name; rows are numbered from one. The sizes of a sheet bound both.
-/

namespace Sheetwise

/-- The number of rows of a sheet. -/
def maxRows : Nat := 1048576

/-- The number of columns of a sheet. -/
def maxColumns : Nat := 16384

/-- A cell of a sheet, counted from zero on both axes. -/
structure Address where
  row : Nat
  col : Nat
deriving DecidableEq, Repr, Inhabited

namespace Address

/-- Row by row, and from left to right within a row. -/
instance : LT Address where
  lt a b := a.row < b.row ∨ a.row = b.row ∧ a.col < b.col

instance : DecidableLT Address := fun a b =>
  inferInstanceAs (Decidable (a.row < b.row ∨ a.row = b.row ∧ a.col < b.col))

theorem lt_iff {a b : Address} : a < b ↔ a.row < b.row ∨ a.row = b.row ∧ a.col < b.col :=
  Iff.rfl

instance : KeyOrder Address where
  irrefl a h := by rw [lt_iff] at h; omega
  trans h h' := by rw [lt_iff] at *; omega
  total a b := by
    have : a = b ↔ a.row = b.row ∧ a.col = b.col := by
      cases a; cases b; simp
    rw [this, lt_iff, lt_iff]
    omega

end Address

/-- Why a text is not a cell address. -/
inductive AddressError where
  /-- There is nothing but blanks. -/
  | empty
  /-- No letters stand where the column should. -/
  | noLetters (text : String)
  /-- A column needs one to three letters. -/
  | letterCount (letters : String)
  /-- A column is written in the letters `A` to `Z`. -/
  | notALetter (c : Char)
  /-- The column lies beyond the last one of a sheet. -/
  | columnBeyond (col : Nat)
  /-- What follows the letters is no row number of a sheet. -/
  | badRow (text : String)

/-- The text that reports an address error. -/
def AddressError.message : AddressError → String
  | .empty => "Invalid cell address: empty address"
  | .noLetters text => "Invalid cell address: no column letters in '" ++ text ++ "'"
  | .letterCount letters => "Invalid cell address: invalid column letters '" ++ letters ++ "'"
  | .notALetter c => "Invalid cell address: invalid column letter '" ++ String.singleton c ++ "'"
  | .columnBeyond col =>
    "Column index " ++ Text.ofNat col ++ " out of bounds (max: " ++ Text.ofNat (maxColumns - 1) ++ ")"
  | .badRow text => "Invalid cell address: invalid row number in '" ++ text ++ "'"

namespace Column

/-- The letter for a digit of a column name, from `A` for 0 to `Z` for 25. -/
def letter (n : Nat) : Char := Char.ofNat ('A'.toNat + n)

/-- The letters of a column: `A` for 0, `Z` for 25, `AA` for 26. -/
def letters (col : Nat) : List Char :=
  if col < 26 then [letter col]
  else letters (col / 26 - 1) ++ [letter (col % 26)]
termination_by col
decreasing_by omega

/-- The name of a column. -/
def name (col : Nat) : String := String.ofList (letters col)

/-- The place of a letter in the alphabet, counted from one, whatever its case. -/
def letterValue (c : Char) : Nat := c.toUpper.toNat - 'A'.toNat + 1

/-- The number that letters denote, counted from one: each letter to the right is worth 26 times less. -/
def value (cs : List Char) : Nat :=
  cs.foldl (fun n c => n * 26 + letterValue c) 0

/-- The column that letters denote. -/
def ofLetters (cs : List Char) : Except AddressError Nat :=
  if cs = [] ∨ 3 < Text.utf8Length cs then .error (.letterCount (String.ofList cs))
  else
    match cs.find? fun c => !Text.isLetter c with
    | some c => .error (.notALetter c)
    | none =>
      let col := value cs - 1
      if maxColumns ≤ col then .error (.columnBeyond col) else .ok col

end Column

namespace Row

/-- The row, counted from zero, that a row number denotes. -/
def ofNumber? (cs : List Char) : Option Nat :=
  match Text.digits? cs with
  | none => none
  | some n => if n = 0 ∨ maxRows < n then none else some (n - 1)

end Row

namespace Address

/-- The characters without a dollar sign in front. -/
def dropDollar : List Char → List Char
  | '$' :: cs => cs
  | cs => cs

/-- Reads an address; a dollar sign may stand before the letters and before the row number. -/
def ofChars (cs : List Char) : Except AddressError Address :=
  let cs := Text.trimChars cs
  if cs = [] then .error .empty
  else
    let body := dropDollar cs
    let letters := body.takeWhile Text.isLetter
    if letters = [] then .error (.noLetters (String.ofList cs))
    else
      match Column.ofLetters letters with
      | .error e => .error e
      | .ok col =>
        match Row.ofNumber? (dropDollar (body.dropWhile Text.isLetter)) with
        | none => .error (.badRow (String.ofList cs))
        | some row => .ok ⟨row, col⟩

/-- Reads an address such as `B12` or `$B$12`. -/
def parse (s : String) : Except AddressError Address :=
  ofChars s.toList

/-- The address as text, without dollar signs. -/
def text (a : Address) : String :=
  Column.name a.col ++ Text.ofNat (a.row + 1)

end Address

end Sheetwise
