import Mathlib.Data.List.Forall2
import Mathlib.Data.List.Induction
import Mathlib.Data.Nat.Digits.Defs
import Sheetwise.Numbering
import Sheetwise.Proofs.Spelling

/-!
# The grammar of addresses

Columns and rows are numerals of two kinds. A row is written in ten digits of which one is zero, so it
has as many numerals as zeros may stand in front. A column is written in twenty-six digits from one on.
With no zero among them there is nothing to put in front: the last letter is what is left of the number
by a division that leaves from one to twenty-six, the letters before it are the quotient, and both are
settled by the number. Hence a column has one name, and a name has one column.

The names are made and read by counting from zero, where the quotient has to be taken one down at each
letter and is taken up again by reading it.
-/

namespace Sheetwise

/-! ## Numerals -/

/--
The characters of a numeral and the number that it denotes. Each character stands for a digit. The last
one counts once and each one before it `base` times what the next one does.
-/
def Denotes (stands : Char → Nat → Prop) (base : Nat) (cs : List Char) (n : Nat) : Prop :=
  ∃ digits, List.Forall₂ stands cs digits ∧ Nat.ofDigits base digits.reverse = n

/-- A character is the `n`-th letter of the alphabet, counted from one, in either case. -/
def IsLetterNo (c : Char) (n : Nat) : Prop :=
  1 ≤ n ∧ n ≤ 26 ∧ (c.toNat = 64 + n ∨ c.toNat = 96 + n)

/-- A character is the digit `n`. -/
def IsDigitNo (c : Char) (n : Nat) : Prop := n ≤ 9 ∧ c.toNat = 48 + n

/-- Digits that are read from the left make the number that they count for. -/
theorem ofDigits_reverse (base : Nat) (digits : List Nat) :
    Nat.ofDigits base digits.reverse = digits.foldl (fun n d => base * n + d) 0 := by
  rw [Nat.ofDigits_eq_foldr, List.foldr_reverse]
  simp only [Nat.cast_id, Nat.add_comm]

/-- If a character has a known value, reading numerals from the left makes what they denote. -/
theorem denotes_iff {stands : Char → Nat → Prop} {known : Char → Bool} {value : Char → Nat} {base n : Nat}
    {cs : List Char} (h : ∀ c n, stands c n ↔ known c = true ∧ value c = n) :
    Denotes stands base cs n
      ↔ (∀ c ∈ cs, known c = true) ∧ cs.foldl (fun n c => base * n + value c) 0 = n := by
  obtain rfl : stands = fun c n => known c = true ∧ value c = n :=
    funext fun c => funext fun n => propext (h c n)
  have hdigits (digits : List Nat) : List.Forall₂ (fun c n => known c = true ∧ value c = n) cs digits
      ↔ (∀ c ∈ cs, known c = true) ∧ cs.map value = digits := by
    rw [List.forall₂_and_left, ← List.forall₂_eq_eq_eq, List.forall₂_map_left_iff]
  simp only [Denotes, hdigits, ofDigits_reverse, and_assoc, exists_and_left, exists_eq_left',
    List.foldl_map]

theorem isLetterNo_iff (c : Char) (n : Nat) :
    IsLetterNo c n ↔ Text.isLetter c = true ∧ Column.letterValue c = n := by
  have hvalue : Column.letterValue c = c.toUpper.toNat - 65 + 1 := rfl
  rw [IsLetterNo, Text.isLetter_iff, hvalue, Text.toNat_toUpper]
  split <;> omega

theorem isDigitNo_iff (c : Char) (n : Nat) :
    IsDigitNo c n ↔ Text.isDigit c = true ∧ Text.digitValue c = n := by
  have hvalue : Text.digitValue c = c.toNat - 48 := rfl
  rw [IsDigitNo, Text.isDigit_iff, hvalue]
  omega

/-! ## Columns -/

namespace Column

variable {ls : List Char} {col : Nat}

theorem denotes_letters_iff {n : Nat} :
    Denotes IsLetterNo 26 ls n ↔ (∀ c ∈ ls, Text.isLetter c = true) ∧ value ls = n := by
  rw [denotes_iff isLetterNo_iff, value]
  simp only [Nat.mul_comm]

theorem letterValue_bounds {c : Char} (h : Text.isLetter c = true) :
    1 ≤ letterValue c ∧ letterValue c ≤ 26 := by
  obtain ⟨hone, hlast, -⟩ := (isLetterNo_iff c _).mpr ⟨h, rfl⟩
  exact ⟨hone, hlast⟩

/-- The letter with the value of another one is that letter as a capital. -/
theorem letter_letterValue {c : Char} (h : Text.isLetter c = true) :
    letter (letterValue c - 1) = c.toUpper := by
  have hplace : 'A'.toNat + (letterValue c - 1) = c.toUpper.toNat := by
    have hcapital : 65 ≤ c.toUpper.toNat := by
      rw [Text.isLetter_iff] at h
      rw [Text.toNat_toUpper]
      split <;> omega
    show 65 + (c.toUpper.toNat - 65 + 1 - 1) = c.toUpper.toNat
    omega
  rw [letter, hplace, Char.ofNat_toNat]

/-- **Letters are those of the column that they denote**, whatever their case. -/
theorem spells_of_value (h : ∀ c ∈ ls, Text.isLetter c = true) (hvalue : value ls = col + 1) :
    Spells ls col := by
  induction ls using List.reverseRecOn generalizing col with
  | nil => cases hvalue
  | append_singleton ls c ih =>
      rw [List.forall_mem_append, List.forall_mem_singleton] at h
      have hbounds := letterValue_bounds h.2
      rw [value_concat] at hvalue
      rw [Spells, List.map_append, List.map_singleton, ← letter_letterValue h.2]
      by_cases hls : ls = []
      · subst hls
        have hcol : col = letterValue c - 1 := by
          have hnil : value [] = 0 := rfl
          omega
        rw [letters, if_pos (by omega), hcol]
        rfl
      · -- the letters before the last one denote a column of their own
        have hpos := value_pos hls
        have hbefore := ih h.1 (show value ls = value ls - 1 + 1 by omega)
        rw [letters, if_neg (by omega), hbefore]
        have hquotient : col / 26 - 1 = value ls - 1 := by omega
        have hlast : col % 26 = letterValue c - 1 := by omega
        rw [hquotient, hlast]

theorem Names.spells (h : Names ls col) : Spells ls col := spells_of_value h.isLetter h.value

theorem numberedName_eq_ok (h : col < maxColumns) : numberedName col = .ok (name col) := by
  refine numbered_eq_ok_of_forall_lt _ fun i hi => ?_
  rw [List.mem_singleton.mp hi]
  exact Nat.lt_trans h (by decide)

/-- The name of a column of a sheet is read as that column. -/
theorem ofLetters_name (h : col < maxColumns) : ofLetters (name col).toList = .ok col := by
  rw [name, String.toList_ofList, ofLetters_eq_ok_iff]
  exact (spells_letters col).names h

/-- The name of a column that is read is what was read, in capitals. -/
theorem name_of_ofLetters {w : String} (h : ofLetters w.toList = .ok col) : name col = Text.upper w := by
  rw [name, Text.upper, ← (ofLetters_eq_ok_iff.mp h).spells]

end Column

/-! ## Addresses -/

namespace Address

variable {a : Address} {cs : List Char}

/--
An address by its grammar: one to three letters that denote the column, counted from one, and digits that
denote the row, counted from one. A dollar sign may stand before either.
-/
inductive Grammar (a : Address) : List Char → Prop where
  | mk {m m' : Bool} {ls ds : List Char} : 1 ≤ ls.length → ls.length ≤ 3 →
      Denotes IsLetterNo 26 ls (a.col + 1) → a.col < maxColumns →
      ds ≠ [] → Denotes IsDigitNo 10 ds (a.row + 1) → a.row < maxRows →
      Grammar a (dollar m ++ ls ++ (dollar m' ++ ds))

theorem written_iff_grammar : a.Written cs ↔ a.Grammar cs := by
  refine ⟨fun h => ?_, fun h => ?_⟩
  · cases h with
    | mk hls hds =>
        refine .mk (List.length_pos_iff.mpr hls.ne_nil) hls.length_le ?_ hls.lt hds.ne_nil ?_ hds.lt
        · exact Column.denotes_letters_iff.mpr ⟨hls.isLetter, hls.value⟩
        · exact (denotes_iff isDigitNo_iff).mpr ⟨hds.isDigit, hds.value⟩
  · cases h with
    | mk hfirst hlength hletters hcol hne hdigits hrow =>
        obtain ⟨hisLetter, hvalue⟩ := Column.denotes_letters_iff.mp hletters
        obtain ⟨hisDigit, hnumber⟩ := (denotes_iff isDigitNo_iff).mp hdigits
        exact .mk ⟨⟨List.length_pos_iff.mp hfirst, hlength, hisLetter⟩, hvalue, hcol⟩
          ⟨⟨hne, hisDigit⟩, hnumber, hrow⟩

/--
**Addresses are read by their grammar, and columns and their names correspond.** A text is read as an
address if, and only if, it is one by the grammar when the blanks around it are taken off. The name of a
column of a sheet is read as that column, and the name of a column that was read is the text that it was
read off, in capitals.
-/
theorem parse_grammar :
    (∀ (s : String) (a : Address), parse s = .ok a ↔ a.Grammar (Text.trimChars s.toList))
    ∧ (∀ col < maxColumns, ∃ name, Column.numberedName col = .ok name
      ∧ Column.ofLetters name.toList = .ok col)
    ∧ ∀ (w : String) (col : Nat), Column.ofLetters w.toList = .ok col →
      Column.numberedName col = .ok (Text.upper w) := by
  refine ⟨fun s a => ?_, fun col hcol => ?_, fun w col hread => ?_⟩
  · rw [parse, ofChars_eq_ok_iff, written_iff_grammar]
  · exact ⟨Column.name col, Column.numberedName_eq_ok hcol, Column.ofLetters_name hcol⟩
  · have hcol := (Column.ofLetters_eq_ok_iff.mp hread).lt
    rw [Column.numberedName_eq_ok hcol, Column.name_of_ofLetters hread]

/-- A cell in the last column of a sheet, with blanks around it, letters of either case and a zero in front. -/
theorem parse_grammar_last_column :
    parse "\u00a0$xFd012 " = .ok ⟨11, 16383⟩
      ∧ (16383 < maxColumns ∧ ∃ name, Column.numberedName 16383 = .ok name
        ∧ Column.ofLetters name.toList = .ok 16383)
      ∧ Column.ofLetters "xFd".toList = .ok 16383 ∧ Column.numberedName 16383 = .ok "XFD" := by
  obtain ⟨hparse, hname, hletters⟩ := parse_grammar
  have hlast : 16383 < maxColumns := by decide
  have hisLetter : ∀ c ∈ ['x', 'F', 'd'], Text.isLetter c = true := List.all_eq_true.mp rfl
  have hisDigit : ∀ c ∈ ['0', '1', '2'], Text.isDigit c = true := List.all_eq_true.mp rfl
  have hread : Column.ofLetters "xFd".toList = .ok 16383 :=
    Column.ofLetters_eq_ok_iff.mpr ⟨⟨List.cons_ne_nil _ _, le_refl 3, hisLetter⟩, rfl, hlast⟩
  refine ⟨(hparse _ _).mpr ?_, ⟨hlast, hname 16383 hlast⟩, hread, hletters "xFd" 16383 hread⟩
  have htrim : Text.trimChars "\u00a0$xFd012 ".toList
      = dollar true ++ ['x', 'F', 'd'] ++ (dollar false ++ ['0', '1', '2']) := by decide +kernel
  have hcol : Denotes IsLetterNo 26 ['x', 'F', 'd'] 16384 := Column.denotes_letters_iff.mpr ⟨hisLetter, rfl⟩
  have hrow : Denotes IsDigitNo 10 ['0', '1', '2'] 12 := (denotes_iff isDigitNo_iff).mpr ⟨hisDigit, rfl⟩
  rw [htrim]
  exact .mk (Nat.le_add_left 1 2) (le_refl 3) hcol hlast (List.cons_ne_nil _ _) hrow (by decide)

end Address

end Sheetwise
