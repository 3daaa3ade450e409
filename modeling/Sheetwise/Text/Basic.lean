/-!
# Text

Which characters count as blank, how text is trimmed of them, and how it is cut at a mark. The blanks
are the characters of the Unicode property `White_Space`; a zero-width space or a byte order mark is not
among them. Markup has a narrower notion, the four ASCII blanks, kept apart here because the two are
never interchangeable: a no-break space around an address is trimmed, one around a tag's text is kept.
-/

namespace Sheetwise.Text

/-- The characters of the Unicode property `White_Space`. -/
def isBlank (c : Char) : Bool :=
  let n := c.val.toNat
  (9 ≤ n && n ≤ 13) || n == 0x20 || n == 0x85 || n == 0xA0 || n == 0x1680 ||
    (0x2000 ≤ n && n ≤ 0x200A) || n == 0x2028 || n == 0x2029 || n == 0x202F || n == 0x205F ||
    n == 0x3000

/-- The list without the elements satisfying `p` at its end. -/
def dropEndWhile {α : Type} (p : α → Bool) (xs : List α) : List α :=
  (xs.reverse.dropWhile p).reverse

/-- The list without the elements satisfying `p` at its two ends. -/
def strip {α : Type} (p : α → Bool) (xs : List α) : List α :=
  dropEndWhile p (xs.dropWhile p)

/-- The characters between the first and the last one that is not blank. -/
def trimChars (cs : List Char) : List Char :=
  strip isBlank cs

/-- The text between its first and its last character that is not blank. -/
def trim (s : String) : String :=
  String.ofList (trimChars s.toList)

/-- Text made of blanks only, the empty text included. -/
def isBlankText (s : String) : Bool :=
  s.toList.all isBlank

/-- The number of bytes that the characters take in UTF-8. -/
def utf8Length (cs : List Char) : Nat :=
  cs.foldl (fun n c => n + c.utf8Size) 0

/-- An ASCII letter, of either case. -/
def isLetter (c : Char) : Bool :=
  ('a' ≤ c && c ≤ 'z') || ('A' ≤ c && c ≤ 'Z')

/-- An ASCII digit. -/
def isDigit (c : Char) : Bool :=
  '0' ≤ c && c ≤ '9'

/-- The text with its ASCII letters in upper case. -/
def upper (s : String) : String :=
  String.ofList (s.toList.map Char.toUpper)

/-- The text with its ASCII letters in lower case. -/
def lower (s : String) : String :=
  String.ofList (s.toList.map Char.toLower)

/-- The text with each character `c` written twice replaced by one, from left to right. -/
def undouble (c : Char) : List Char → List Char
  | [] => []
  | [x] => [x]
  | x :: y :: rest =>
    if x = c ∧ y = c then c :: undouble c rest else x :: undouble c (y :: rest)

/-- The text with each character `c` written twice. -/
def double (c : Char) (cs : List Char) : List Char :=
  cs.flatMap fun x => if x = c then [c, c] else [x]

/-! ## Cutting at a mark -/

section

variable {α : Type} [DecidableEq α]

/-- What stands before the first `x`; without one, everything. -/
def before (x : α) (xs : List α) : List α := xs.takeWhile (· ≠ x)

/-- What stands after the first `x`; without one, nothing. -/
def after (x : α) (xs : List α) : List α := (xs.dropWhile (· ≠ x)).drop 1

theorem length_after_le (x : α) (xs : List α) : (after x xs).length ≤ xs.length := by
  have := (List.dropWhile_sublist (l := xs) (· ≠ x)).length_le
  rw [after, List.length_drop]
  omega

end

end Sheetwise.Text
