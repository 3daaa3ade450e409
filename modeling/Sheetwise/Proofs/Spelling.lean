import Mathlib.Data.List.TakeWhile
import Sheetwise.Proofs.Rectangles
import Sheetwise.Reference

/-!
# References that are written and read

Every rectangle of a sheet is written as a reference that reads back as the same rectangle, so two
rectangles are never written alike. Reading takes more than is ever written: letters of either case,
dollar signs, two corners in any order, whole columns and rows. All these spellings come down to those of
a column and of a row, so it is said of each of them what is read off it and that nothing else is, and the
rest is putting parts together. What is read lies on the sheet in any case.
-/

namespace Sheetwise

/-! ## Letters and digits -/

namespace Text

theorem isLetter_iff {c : Char} :
    isLetter c = true ↔ (97 ≤ c.toNat ∧ c.toNat ≤ 122) ∨ (65 ≤ c.toNat ∧ c.toNat ≤ 90) := by
  simp only [isLetter, Bool.or_eq_true, Bool.and_eq_true, decide_eq_true_eq, Char.le_def,
    UInt32.le_iff_toNat_le]
  exact Iff.rfl

theorem isDigit_iff {c : Char} : isDigit c = true ↔ 48 ≤ c.toNat ∧ c.toNat ≤ 57 := by
  simp only [isDigit, Bool.and_eq_true, decide_eq_true_eq, Char.le_def, UInt32.le_iff_toNat_le]
  exact Iff.rfl

/-- A small letter becomes the capital 32 places before it, and nothing else is changed. -/
theorem toNat_toUpper (c : Char) :
    c.toUpper.toNat = if 97 ≤ c.toNat ∧ c.toNat ≤ 122 then c.toNat - 32 else c.toNat := by
  have hval : c.val.toNat = c.toNat := rfl
  unfold Char.toUpper
  split
  · next h =>
    have hsmall : 97 ≤ c.toNat ∧ c.toNat ≤ 122 := by
      simpa [UInt32.le_iff_toNat_le] using h
    rw [if_pos hsmall]
    show (c.val + _).toNat = _
    rw [UInt32.toNat_add]
    simp
    omega
  · next h =>
    have hother : ¬ (97 ≤ c.toNat ∧ c.toNat ≤ 122) := by
      simpa [UInt32.le_iff_toNat_le] using h
    rw [if_neg hother]

/-- The letters and digits, of which names of cells are made. -/
def isPlain (c : Char) : Bool := isLetter c || isDigit c

theorem isPlain_iff {c : Char} : isPlain c = true ↔ (97 ≤ c.toNat ∧ c.toNat ≤ 122)
    ∨ (65 ≤ c.toNat ∧ c.toNat ≤ 90) ∨ (48 ≤ c.toNat ∧ c.toNat ≤ 57) := by
  rw [isPlain, Bool.or_eq_true, isLetter_iff, isDigit_iff, or_assoc]

theorem isBlank_of_isPlain {c : Char} (h : isPlain c = true) : isBlank c = false := by
  rw [isPlain_iff] at h
  have hval : c.val.toNat = c.toNat := rfl
  simp only [isBlank, hval, Bool.or_eq_false_iff, Bool.and_eq_false_iff, decide_eq_false_iff_not,
    beq_eq_false_iff_ne]
  omega

theorem ne_dollar_of_isPlain {c : Char} (h : isPlain c = true) : c ≠ '$' := by
  rintro rfl
  exact absurd h (by decide)

theorem isLetter_eq_false_of_isDigit {c : Char} (h : isDigit c = true) : isLetter c = false := by
  have hdigit := isDigit_iff.mp h
  rw [Bool.eq_false_iff, ne_eq, isLetter_iff]
  omega

theorem utf8Length_cons (c : Char) (cs : List Char) :
    utf8Length (c :: cs) = c.utf8Size + utf8Length cs := by
  have hfold (n : Nat) (ds : List Char) : ds.foldl (fun n d => n + d.utf8Size) n
      = n + utf8Length ds := by
    unfold utf8Length
    induction ds generalizing n with
    | nil => rfl
    | cons d ds ih =>
        rw [List.foldl_cons, List.foldl_cons, ih, ih (0 + d.utf8Size)]
        omega
  rw [utf8Length, List.foldl_cons, hfold, Nat.zero_add]

theorem utf8Length_append (cs ds : List Char) :
    utf8Length (cs ++ ds) = utf8Length cs + utf8Length ds := by
  induction cs with
  | nil => exact (Nat.zero_add _).symm
  | cons c cs ih => rw [List.cons_append, utf8Length_cons, utf8Length_cons, ih, Nat.add_assoc]

/-- A character of the ASCII range takes one byte. -/
theorem utf8Length_eq_length {cs : List Char} (h : ∀ c ∈ cs, c.toNat ≤ 127) :
    utf8Length cs = cs.length := by
  induction cs with
  | nil => rfl
  | cons c cs ih =>
      rw [List.forall_mem_cons] at h
      have hsize : c.utf8Size = 1 := by
        rw [Char.utf8Size_eq_one_iff, UInt32.le_iff_toNat_le]
        exact h.1
      rw [utf8Length_cons, ih h.2, hsize, List.length_cons, Nat.add_comm]

/-- Text that neither begins nor ends with a blank is trimmed already. -/
theorem trimChars_eq_self {cs : List Char} (hhead : ∀ c ∈ cs.head?, isBlank c = false)
    (hlast : ∀ c ∈ cs.getLast?, isBlank c = false) : trimChars cs = cs := by
  have hdrop {ds : List Char} (h : ∀ c ∈ ds.head?, isBlank c = false) :
      ds.dropWhile isBlank = ds := by
    cases ds with
    | nil => rfl
    | cons d ds => rw [List.dropWhile_cons_of_neg (by rw [h d rfl]; decide)]
  rw [trimChars, strip, dropEndWhile, hdrop hhead, hdrop, List.reverse_reverse]
  rwa [List.head?_reverse]

theorem trimChars_of_ends {cs : List Char} {first last : Char} (hhead : cs.head? = some first)
    (hlast : cs.getLast? = some last) (hfirst : isBlank first = false)
    (hblank : isBlank last = false) : trimChars cs = cs := by
  refine trimChars_eq_self (fun c hc => ?_) fun c hc => ?_
  · rw [hhead] at hc
    exact Option.some.inj hc ▸ hfirst
  · rw [hlast] at hc
    exact Option.some.inj hc ▸ hblank

/-- Text in quotes or brackets is trimmed already, whatever is between them. -/
theorem trimChars_enclosed {opening closing : Char} (ho : isBlank opening = false)
    (hc : isBlank closing = false) (cs : List Char) :
    trimChars (opening :: (cs ++ [closing])) = opening :: (cs ++ [closing]) := by
  refine trimChars_of_ends rfl ?_ ho hc
  rw [← List.cons_append, List.getLast?_concat]

theorem digits?_digitsOf (n : Nat) : digits? (digitsOf n) = some n := by
  have hdigits : (digitsOf n).all isDigit = true := by
    rw [List.all_eq_true]
    intro c hc
    have h := Nat.isDigit_of_mem_toDigits (by decide) (by decide) hc
    simp only [Char.isDigit, Bool.and_eq_true, decide_eq_true_eq, ge_iff_le,
      UInt32.le_iff_toNat_le] at h
    rw [isDigit_iff]
    exact h
  have hvalue : digitsValue (digitsOf n) = n := by
    have h := Nat.ofDigitChars_ten_toDigits (n := n)
    rw [Nat.ofDigitChars_eq_foldl] at h
    exact h
  rw [digits?, if_pos ⟨Nat.toDigits_ne_nil, hdigits⟩, hvalue]

theorem digits?_eq_some_iff {cs : List Char} {n : Nat} :
    digits? cs = some n ↔ cs ≠ [] ∧ (∀ c ∈ cs, isDigit c = true) ∧ digitsValue cs = n := by
  unfold digits?
  constructor
  · intro h
    split at h
    · next hcs => exact ⟨hcs.1, List.all_eq_true.mp hcs.2, Option.some.inj h⟩
    · cases h
  · intro h
    rw [if_pos ⟨h.1, List.all_eq_true.mpr h.2.1⟩, h.2.2]

theorem isDigit_of_digits? {cs : List Char} {n : Nat} (h : digits? cs = some n) :
    cs ≠ [] ∧ ∀ c ∈ cs, isDigit c = true :=
  ⟨(digits?_eq_some_iff.mp h).1, (digits?_eq_some_iff.mp h).2.1⟩

theorem ne_sign_of_isDigit {c : Char} (h : isDigit c = true) : c ≠ '-' ∧ c ≠ '+' := by
  constructor <;> rintro rfl <;> exact absurd h (by decide)

/-- Zeros before a number do not change it. -/
theorem digitsValue_zeros_append (k : Nat) (ds : List Char) :
    digitsValue (List.replicate k '0' ++ ds) = digitsValue ds := by
  induction k with
  | zero => rfl
  | succ k ih => exact ih

/-- Digits are read up to what is no digit. -/
theorem span_digits {ds rest : List Char} (hds : ∀ c ∈ ds, isDigit c = true)
    (hrest : ∀ c ∈ rest.head?, isDigit c = false) :
    (ds ++ rest).takeWhile isDigit = ds ∧ (ds ++ rest).dropWhile isDigit = rest := by
  rw [List.takeWhile_append_of_pos hds, List.dropWhile_append_of_pos hds]
  cases rest with
  | nil => simp
  | cons c rest =>
      have hc : ¬ isDigit c = true := by rw [hrest c rfl]; decide
      rw [List.takeWhile_cons_of_neg hc, List.append_nil, List.dropWhile_cons_of_neg hc]
      exact ⟨rfl, rfl⟩

end Text

/-! ## Columns and rows -/

namespace Column

theorem letterValue_letter {n : Nat} (h : n < 26) : letterValue (letter n) = n + 1 := by
  revert n
  decide

theorem value_concat (cs : List Char) (c : Char) :
    value (cs ++ [c]) = value cs * 26 + letterValue c := by
  rw [value, List.foldl_append]
  rfl

/-- The letters of a column denote it, counted from one. -/
theorem value_letters (col : Nat) : value (letters col) = col + 1 := by
  fun_induction letters col with
  | case1 col h => exact (value_concat [] (letter col)).trans (by rw [letterValue_letter h]; simp [value])
  | case2 col h ih =>
      rw [value_concat, ih, letterValue_letter (Nat.mod_lt _ (by decide))]
      omega

theorem isCapital_of_mem_letters {col : Nat} {c : Char} (h : c ∈ letters col) :
    65 ≤ c.toNat ∧ c.toNat ≤ 90 := by
  have hletter {n : Nat} (hn : n < 26) : 65 ≤ (letter n).toNat ∧ (letter n).toNat ≤ 90 := by
    revert n
    decide
  fun_induction letters col with
  | case1 col hcol =>
      rw [List.mem_singleton.mp h]
      exact hletter hcol
  | case2 col hcol ih =>
      rcases List.mem_append.mp h with h | h
      · exact ih h
      · rw [List.mem_singleton.mp h]
        exact hletter (Nat.mod_lt _ (by decide))

theorem letters_ne_nil (col : Nat) : letters col ≠ [] := by
  rw [letters]
  split <;> simp

/-- Three letters are enough for the columns of a sheet. -/
theorem length_letters_le {col : Nat} (h : col < maxColumns) : (letters col).length ≤ 3 := by
  unfold maxColumns at h
  rw [letters]
  split
  · simp
  · rw [letters]
    split
    · simp
    · rw [letters, if_pos (by omega)]
      simp

theorem utf8Length_letters {cs : List Char} (h : ∀ c ∈ cs, Text.isLetter c = true) :
    Text.utf8Length cs = cs.length := by
  refine Text.utf8Length_eq_length fun c hc => ?_
  have := Text.isLetter_iff.mp (h c hc)
  omega

/-- Letters that may be the name of a column: one to three of them, in either case. -/
structure IsName (ls : List Char) : Prop where
  ne_nil : ls ≠ []
  length_le : ls.length ≤ 3
  isLetter : ∀ c ∈ ls, Text.isLetter c = true

theorem IsName.isPlain {ls : List Char} (h : IsName ls) {c : Char} (hc : c ∈ ls) :
    Text.isPlain c = true := by
  rw [Text.isPlain, h.isLetter c hc, Bool.true_or]

/-- Letters that are the name of a column of a sheet. -/
structure Names (ls : List Char) (col : Nat) : Prop extends IsName ls where
  value : Column.value ls = col + 1
  lt : col < maxColumns

theorem value_pos {cs : List Char} (h : cs ≠ []) : 0 < value cs := by
  rw [← List.dropLast_append_getLast h, value_concat]
  unfold letterValue
  omega

/-- **The names of columns are read, and no other letters.** -/
theorem ofLetters_eq_ok_iff {ls : List Char} {col : Nat} : ofLetters ls = .ok col ↔ Names ls col := by
  unfold ofLetters
  constructor
  · intro h
    split at h
    · cases h
    · next hshort =>
      split at h
      · cases h
      · next hnone =>
        have hletters : ∀ c ∈ ls, Text.isLetter c = true := by
          intro c hc
          simpa using List.find?_eq_none.mp hnone c hc
        rw [utf8Length_letters hletters, not_or] at hshort
        dsimp only at h
        split at h
        · cases h
        · next hcol =>
          cases h
          have hpos := value_pos hshort.1
          exact ⟨⟨hshort.1, by omega, hletters⟩, by omega, Nat.not_le.mp hcol⟩
  · intro h
    -- lengths are counted in bytes, and each of these letters is one
    have hshort : ¬ (ls = [] ∨ 3 < Text.utf8Length ls) := by
      rw [utf8Length_letters h.isLetter]
      exact fun hor => hor.elim h.ne_nil (Nat.not_lt.mpr h.length_le)
    have hfind : ls.find? (fun c => !Text.isLetter c) = none := by
      rw [List.find?_eq_none]
      intro c hc
      rw [h.isLetter c hc]
      decide
    rw [if_neg hshort, hfind]
    dsimp only
    rw [h.value, Nat.add_sub_cancel, if_neg (Nat.not_le.mpr h.lt)]

/-- Letters of either case that are those of a column. -/
def Spells (ls : List Char) (col : Nat) : Prop := ls.map Char.toUpper = letters col

theorem spells_letters (col : Nat) : Spells (letters col) col := by
  refine (List.map_congr_left fun c hc => ?_).trans (List.map_id _)
  have hcapital := isCapital_of_mem_letters hc
  refine Char.toNat_inj.mp ?_
  rw [Text.toNat_toUpper, if_neg (by omega)]
  rfl

theorem Spells.ne_nil {ls : List Char} {col : Nat} (h : Spells ls col) : ls ≠ [] := by
  intro hnil
  have hletters : [].map Char.toUpper = letters col := hnil ▸ h
  exact letters_ne_nil col hletters.symm

theorem Spells.isLetter {ls : List Char} {col : Nat} (h : Spells ls col) {c : Char} (hc : c ∈ ls) :
    Text.isLetter c = true := by
  have hmem : c.toUpper ∈ letters col := by
    rw [← h]
    exact List.mem_map_of_mem hc
  have hcapital := isCapital_of_mem_letters hmem
  rw [Text.toNat_toUpper] at hcapital
  rw [Text.isLetter_iff]
  split at hcapital
  · next hsmall => exact Or.inl hsmall
  · exact Or.inr hcapital

theorem value_map_toUpper (cs : List Char) : value (cs.map Char.toUpper) = value cs := by
  have hvalue (c : Char) : letterValue c.toUpper = letterValue c := by
    unfold letterValue
    rw [Text.toNat_toUpper, Text.toNat_toUpper]
    split
    · rw [if_neg (by omega)]
    · rfl
  unfold value
  rw [List.foldl_map]
  simp only [hvalue]

/-- The letters of a column of a sheet are a name of it, whatever their case. -/
theorem Spells.names {ls : List Char} {col : Nat} (h : Spells ls col) (hcol : col < maxColumns) :
    Names ls col := by
  have hlength : ls.length = (letters col).length := by
    rw [← h, List.length_map]
  have hvalue : value ls = col + 1 := by
    rw [← value_map_toUpper, h, value_letters]
  exact ⟨⟨h.ne_nil, hlength ▸ length_letters_le hcol, fun _ => h.isLetter⟩, hvalue, hcol⟩

end Column

namespace Row

/-- Digits that may be the number of a row. -/
structure IsNumber (ds : List Char) : Prop where
  ne_nil : ds ≠ []
  isDigit : ∀ c ∈ ds, Text.isDigit c = true

theorem IsNumber.isPlain {ds : List Char} (h : IsNumber ds) {c : Char} (hc : c ∈ ds) :
    Text.isPlain c = true := by
  rw [Text.isPlain, h.isDigit c hc, Bool.or_true]

/-- Digits that are the number of a row of a sheet; there may be zeros in front. -/
structure Numbers (ds : List Char) (row : Nat) : Prop extends IsNumber ds where
  value : Text.digitsValue ds = row + 1
  lt : row < maxRows

/-- **The numbers of rows are read, and no other digits.** -/
theorem ofNumber?_eq_some_iff {ds : List Char} {row : Nat} :
    ofNumber? ds = some row ↔ Numbers ds row := by
  unfold ofNumber?
  constructor
  · intro h
    split at h
    · cases h
    · next n hn =>
      obtain ⟨hne, hdigits, rfl⟩ := Text.digits?_eq_some_iff.mp hn
      split at h
      · cases h
      · cases h
        exact ⟨⟨hne, hdigits⟩, by omega, by omega⟩
  · intro h
    rw [Text.digits?_eq_some_iff.mpr ⟨h.ne_nil, h.isDigit, h.value⟩]
    dsimp only
    have hlt := h.lt
    rw [if_neg (by omega), Nat.add_sub_cancel]

theorem numbers_digitsOf {row : Nat} (h : row < maxRows) : Numbers (Text.digitsOf (row + 1)) row := by
  obtain ⟨hne, hdigits, hvalue⟩ := Text.digits?_eq_some_iff.mp (Text.digits?_digitsOf (row + 1))
  exact ⟨⟨hne, hdigits⟩, hvalue, h⟩

end Row

/-! ## Addresses -/

/-- A dollar sign, if a part of an address is marked with one. -/
def Address.dollar : Bool → List Char
  | true => ['$']
  | false => []

theorem Address.eq_of_mem_dollar {m : Bool} {c : Char} (h : c ∈ dollar m) : c = '$' := by
  cases m with
  | true => exact List.mem_singleton.mp h
  | false => cases h

open Address (dollar eq_of_mem_dollar)

/-- A column as it may be written: its letters in either case, and a dollar sign before them or none. -/
def Column.Spelled (col : Nat) (cs : List Char) : Prop :=
  ∃ m ls, Spells ls col ∧ cs = dollar m ++ ls

/-- A row as it may be written: its number, and a dollar sign before it or none. -/
def Row.Spelled (row : Nat) (cs : List Char) : Prop :=
  ∃ m, cs = dollar m ++ Text.digitsOf (row + 1)

theorem Text.digitsOf_ne_nil (n : Nat) : digitsOf n ≠ [] := Nat.toDigits_ne_nil

theorem Text.isDigit_of_mem_digitsOf {n : Nat} {c : Char} (h : c ∈ digitsOf n) : isDigit c = true :=
  (isDigit_of_digits? (digits?_digitsOf n)).2 c h

/-- Of the numbers only zero starts with the digit zero. -/
theorem Text.digitsOf_eq_of_head? {n : Nat} (h : (digitsOf n).head? = some '0') :
    digitsOf n = ['0'] := by
  induction n using Nat.strongRecOn with
  | ind n ih =>
      by_cases hlt : n < 10
      · rw [digitsOf, Nat.toDigits_of_lt_base hlt] at h ⊢
        rw [Option.some.inj h]
      · have hmore : digitsOf n = digitsOf (n / 10) ++ [(n % 10).digitChar] :=
          Nat.toDigits_of_base_le (by decide) (Nat.le_of_not_lt hlt)
        have hzero : digitsOf (n / 10) = ['0'] := by
          refine ih (n / 10) (by omega) ?_
          have hne : digitsOf (n / 10) ≠ [] := Nat.toDigits_ne_nil
          rwa [hmore, List.head?_append_of_ne_nil _ hne] at h
        -- but what stands before the last digit is not zero
        have : some (n / 10) = some 0 := by
          rw [← digits?_digitsOf, hzero]
          rfl
        have := Option.some.inj this
        omega

theorem Text.head?_digitsOf_ne_zero {n : Nat} (hn : n ≠ 0) : (digitsOf n).head? ≠ some '0' := by
  intro hzero
  have hvalue := digits?_digitsOf n
  rw [digitsOf_eq_of_head? hzero] at hvalue
  exact hn (Option.some.inj hvalue).symm

theorem Column.Spelled.mem {col : Nat} {cs : List Char} (h : Spelled col cs) {c : Char} (hc : c ∈ cs) :
    c = '$' ∨ Text.isPlain c = true := by
  obtain ⟨m, ls, hls, rfl⟩ := h
  rcases List.mem_append.mp hc with hc | hc
  · exact Or.inl (eq_of_mem_dollar hc)
  · exact Or.inr (by rw [Text.isPlain, hls.isLetter hc, Bool.true_or])

theorem Column.Spelled.ne_nil {col : Nat} {cs : List Char} (h : Spelled col cs) : cs ≠ [] := by
  obtain ⟨m, ls, hls, rfl⟩ := h
  exact List.append_ne_nil_of_right_ne_nil _ hls.ne_nil

theorem Row.Spelled.mem {row : Nat} {cs : List Char} (h : Spelled row cs) {c : Char} (hc : c ∈ cs) :
    c = '$' ∨ Text.isPlain c = true := by
  obtain ⟨m, rfl⟩ := h
  rcases List.mem_append.mp hc with hc | hc
  · exact Or.inl (eq_of_mem_dollar hc)
  · exact Or.inr (by rw [Text.isPlain, Text.isDigit_of_mem_digitsOf hc, Bool.or_true])

theorem Row.Spelled.ne_nil {row : Nat} {cs : List Char} (h : Spelled row cs) : cs ≠ [] := by
  obtain ⟨m, rfl⟩ := h
  exact List.append_ne_nil_of_right_ne_nil _ (Text.digitsOf_ne_nil _)

namespace Address

/-- The cell is one of a sheet. -/
def OnSheet (a : Address) : Prop := a.row < maxRows ∧ a.col < maxColumns

/-- An address as it may be written: its column and its row. -/
def Spelled (a : Address) (cs : List Char) : Prop :=
  ∃ ls ds, Column.Spelled a.col ls ∧ Row.Spelled a.row ds ∧ cs = ls ++ ds

/-- The characters of an address with dollar signs before its column, its row or both. -/
def markedChars (a : Address) (col row : Bool) : List Char :=
  dollar col ++ Column.letters a.col ++ (dollar row ++ Text.digitsOf (a.row + 1))

theorem spelled_markedChars (a : Address) (col row : Bool) : a.Spelled (a.markedChars col row) :=
  ⟨_, _, ⟨col, _, Column.spells_letters a.col, rfl⟩, ⟨row, rfl⟩, rfl⟩

theorem toList_text (a : Address) : a.text.toList = a.markedChars false false := by
  simp [text, markedChars, dollar, Column.name, Text.ofNat]

variable {a : Address} {cs : List Char}

theorem Spelled.mem (h : a.Spelled cs) {c : Char} (hc : c ∈ cs) : c = '$' ∨ Text.isPlain c = true := by
  obtain ⟨ls, ds, hls, hds, rfl⟩ := h
  rcases List.mem_append.mp hc with hc | hc
  · exact hls.mem hc
  · exact hds.mem hc

theorem Spelled.ne_nil (h : a.Spelled cs) : cs ≠ [] := by
  obtain ⟨ls, ds, hls, _, rfl⟩ := h
  exact List.append_ne_nil_of_left_ne_nil hls.ne_nil _

/-- Characters of which columns, rows and addresses are made. -/
theorem isBlank_of_marked {c : Char} (h : c = '$' ∨ Text.isPlain c = true) :
    Text.isBlank c = false := by
  rcases h with rfl | h
  · decide
  · exact Text.isBlank_of_isPlain h

theorem trimChars_of_marked (h : ∀ c ∈ cs, c = '$' ∨ Text.isPlain c = true) :
    Text.trimChars cs = cs :=
  Text.trimChars_eq_self (fun _ hc => isBlank_of_marked (h _ (List.mem_of_head? hc)))
    (fun _ hc => isBlank_of_marked (h _ (List.mem_of_getLast? hc)))

theorem colon_notMem_of_marked (h : ∀ c ∈ cs, c = '$' ∨ Text.isPlain c = true) : ':' ∉ cs := by
  intro hc
  rcases h ':' hc with hc | hc
  · exact absurd hc (by decide)
  · exact absurd hc (by decide)

/-- A dollar sign that may be there is dropped, and no more than that one. -/
theorem dropDollar_dollar {m : Bool} (h : ∀ c ∈ cs.head?, c ≠ '$') :
    dropDollar (dollar m ++ cs) = cs := by
  cases m with
  | true => rfl
  | false =>
      show dropDollar cs = cs
      unfold dropDollar
      split
      · exact absurd rfl (h '$' rfl)
      · rfl

theorem exists_dollar (cs : List Char) : ∃ m, cs = dollar m ++ dropDollar cs := by
  unfold dropDollar
  split
  · exact ⟨true, rfl⟩
  · exact ⟨false, rfl⟩

/--
An address as it is read: the name of its column and the number of its row, and before each of them a
dollar sign or none.
-/
inductive Written (a : Address) : List Char → Prop where
  | mk {m m' : Bool} {ls ds : List Char} : Column.Names ls a.col → Row.Numbers ds a.row →
      Written a (dollar m ++ ls ++ (dollar m' ++ ds))

theorem Written.onSheet (h : a.Written cs) : a.OnSheet := by
  cases h with
  | mk hls hds => exact ⟨hds.lt, hls.lt⟩

/-- **Addresses are read, and no other text**, but for the blanks around them. -/
theorem ofChars_eq_ok_iff : ofChars cs = .ok a ↔ a.Written (Text.trimChars cs) := by
  unfold ofChars
  dsimp only
  generalize Text.trimChars cs = cs
  constructor
  · intro h
    split at h
    · cases h
    · split at h
      · cases h
      · split at h
        · cases h
        · next col hcol =>
          split at h
          · cases h
          · next row hrow =>
            cases h
            obtain ⟨m, hm⟩ := exists_dollar cs
            obtain ⟨m', hm'⟩ := exists_dollar ((dropDollar cs).dropWhile Text.isLetter)
            rw [hm, ← List.takeWhile_append_dropWhile (p := Text.isLetter) (l := dropDollar cs), hm',
              ← List.append_assoc]
            exact .mk (Column.ofLetters_eq_ok_iff.mp hcol) (Row.ofNumber?_eq_some_iff.mp hrow)
  · intro h
    cases h with
    | @mk m m' ls ds hls hds =>
        -- the letters end where a dollar sign or the digits begin
        have hrest : ∀ c ∈ dollar m' ++ ds, Text.isLetter c = false := by
          intro c hc
          rcases List.mem_append.mp hc with hc | hc
          · rw [eq_of_mem_dollar hc]
            decide
          · exact Text.isLetter_eq_false_of_isDigit (hds.isDigit c hc)
        have htake : (ls ++ (dollar m' ++ ds)).takeWhile Text.isLetter = ls := by
          rw [List.takeWhile_append_of_pos hls.isLetter, List.takeWhile_eq_nil_iff.mpr,
            List.append_nil]
          intro hlength
          rw [hrest _ (List.get_mem _ ⟨0, hlength⟩)]
          decide
        have hdrop : (ls ++ (dollar m' ++ ds)).dropWhile Text.isLetter = dollar m' ++ ds := by
          rw [List.dropWhile_append_of_pos hls.isLetter, List.dropWhile_eq_self_iff]
          intro hlength
          rw [hrest _ (List.getElem_mem hlength)]
          decide
        have hfirst : dropDollar (dollar m ++ (ls ++ (dollar m' ++ ds))) = ls ++ (dollar m' ++ ds) := by
          refine dropDollar_dollar fun c hc => ?_
          rw [List.head?_append_of_ne_nil _ hls.ne_nil] at hc
          exact Text.ne_dollar_of_isPlain (hls.isPlain (List.mem_of_head? hc))
        have hsecond : dropDollar (dollar m' ++ ds) = ds :=
          dropDollar_dollar fun c hc => Text.ne_dollar_of_isPlain (hds.isPlain (List.mem_of_head? hc))
        have hne : dollar m ++ ls ++ (dollar m' ++ ds) ≠ [] :=
          List.append_ne_nil_of_left_ne_nil (List.append_ne_nil_of_right_ne_nil _ hls.ne_nil) _
        rw [if_neg hne, List.append_assoc, hfirst, htake, if_neg hls.ne_nil,
          Column.ofLetters_eq_ok_iff.mpr hls, hdrop, hsecond]
        dsimp only
        rw [Row.ofNumber?_eq_some_iff.mpr hds]

theorem Spelled.written (h : a.Spelled cs) (ha : a.OnSheet) : a.Written cs := by
  obtain ⟨_, _, ⟨m, ls, hls, rfl⟩, ⟨m', rfl⟩, rfl⟩ := h
  exact .mk (hls.names ha.2) (Row.numbers_digitsOf ha.1)

/-- **An address of a sheet is read, however it is spelled.** -/
theorem Spelled.ofChars (h : a.Spelled cs) (ha : a.OnSheet) : ofChars cs = .ok a := by
  rw [ofChars_eq_ok_iff, trimChars_of_marked fun _ => h.mem]
  exact h.written ha

theorem onSheet_of_ofChars {cs : List Char} (h : ofChars cs = .ok a) : a.OnSheet :=
  (ofChars_eq_ok_iff.mp h).onSheet

end Address

/-! ## Rectangles -/

namespace Rect

/-- The rectangle lies on a sheet. -/
def OnSheet (b : Rect) : Prop := b.r2 < maxRows ∧ b.c2 < maxColumns

instance : DecidablePred OnSheet := fun _ => inferInstanceAs (Decidable (_ ∧ _))

theorem onSheet_first {b : Rect} (h : b.OnSheet) : b.first.OnSheet :=
  ⟨Nat.lt_of_le_of_lt b.rows_le h.1, Nat.lt_of_le_of_lt b.cols_le h.2⟩

theorem onSheet_ofCorners {a b : Address} (ha : a.OnSheet) (hb : b.OnSheet) :
    (Rect.ofCorners a.row a.col b.row b.col).OnSheet :=
  ⟨Nat.max_lt.mpr ⟨ha.1, hb.1⟩, Nat.max_lt.mpr ⟨ha.2, hb.2⟩⟩

/-- Two numbers are the first and the last one of a span, in either order. -/
def Ends (lo hi x y : Nat) : Prop := (x = lo ∧ y = hi) ∨ (x = hi ∧ y = lo)

theorem Ends.le {lo hi x y : Nat} (h : Ends lo hi x y) (hle : lo ≤ hi) : x ≤ hi ∧ y ≤ hi := by
  unfold Ends at h
  omega

/-- A rectangle is spanned by any two opposite corners of it, in either order. -/
theorem ofCorners_of_ends {b : Rect} {r r' c c' : Nat} (hrows : Ends b.r1 b.r2 r r')
    (hcols : Ends b.c1 b.c2 c c') : Rect.ofCorners r c r' c' = b := by
  have := b.rows_le
  have := b.cols_le
  unfold Ends at hrows hcols
  apply ext <;> simp only [ofCorners] <;> omega

/-- Which of the four parts of a range are marked with a dollar sign. -/
structure Marks where
  firstCol : Bool := false
  firstRow : Bool := false
  lastCol : Bool := false
  lastRow : Bool := false

/-- The characters of the reference to a rectangle, with dollar signs where they are wanted. -/
def markedChars (b : Rect) (m : Marks) : List Char :=
  b.first.markedChars m.firstCol m.firstRow ++ ':' :: b.last.markedChars m.lastCol m.lastRow

theorem toList_text (b : Rect) : b.text.toList = b.markedChars {} := by
  simp [text, markedChars, Address.toList_text]

/-- A rectangle as it may be written, without the name of a sheet. -/
inductive Spelled (b : Rect) : List Char → Prop where
  /-- Two opposite corners, whichever they are and in either order. -/
  | corners {a a' : Address} {cs cs' : List Char} : Ends b.r1 b.r2 a.row a'.row →
      Ends b.c1 b.c2 a.col a'.col → a.Spelled cs → a'.Spelled cs' → b.Spelled (cs ++ ':' :: cs')
  /-- A cell by itself. -/
  | single {a : Address} {cs : List Char} : b.first = a → b.last = a → a.Spelled cs → b.Spelled cs
  /-- Whole columns, in either order. -/
  | columns {c c' : Nat} {cs cs' : List Char} : b.r1 = 0 → b.r2 = maxRows - 1 →
      Ends b.c1 b.c2 c c' → Column.Spelled c cs → Column.Spelled c' cs' → b.Spelled (cs ++ ':' :: cs')
  /-- Whole rows, in either order. -/
  | rows {r r' : Nat} {cs cs' : List Char} : b.c1 = 0 → b.c2 = maxColumns - 1 →
      Ends b.r1 b.r2 r r' → Row.Spelled r cs → Row.Spelled r' cs' → b.Spelled (cs ++ ':' :: cs')

variable {b : Rect} {cs : List Char}

theorem spelled_markedChars (b : Rect) (m : Marks) : b.Spelled (b.markedChars m) :=
  .corners (Or.inl ⟨rfl, rfl⟩) (Or.inl ⟨rfl, rfl⟩) (b.first.spelled_markedChars m.firstCol m.firstRow)
    (b.last.spelled_markedChars m.lastCol m.lastRow)

theorem Spelled.mem (h : b.Spelled cs) {c : Char} (hc : c ∈ cs) :
    c = ':' ∨ c = '$' ∨ Text.isPlain c = true := by
  have hjoined {ds ds' : List Char} (hds : ∀ c ∈ ds, c = '$' ∨ Text.isPlain c = true)
      (hds' : ∀ c ∈ ds', c = '$' ∨ Text.isPlain c = true) {c : Char} (hc : c ∈ ds ++ ':' :: ds') :
      c = ':' ∨ c = '$' ∨ Text.isPlain c = true := by
    rcases List.mem_append.mp hc with hc | hc
    · exact Or.inr (hds c hc)
    · rcases List.mem_cons.mp hc with hc | hc
      · exact Or.inl hc
      · exact Or.inr (hds' c hc)
  cases h with
  | corners _ _ ha ha' => exact hjoined (fun _ => ha.mem) (fun _ => ha'.mem) hc
  | single _ _ ha => exact Or.inr (ha.mem hc)
  | columns _ _ _ hs hs' => exact hjoined (fun _ => hs.mem) (fun _ => hs'.mem) hc
  | rows _ _ _ hs hs' => exact hjoined (fun _ => hs.mem) (fun _ => hs'.mem) hc

theorem Spelled.ne_of_mem (h : b.Spelled cs) {c d : Char} (hc : c ∈ cs) (hd : d ≠ '$') (hd' : d ≠ ':')
    (hplain : Text.isPlain d = false) : c ≠ d := by
  intro heq
  rw [heq] at hc
  rcases h.mem hc with hc | hc | hc
  · exact hd' hc
  · exact hd hc
  · rw [hc] at hplain
    cases hplain

theorem Spelled.isBlank_of_mem (h : b.Spelled cs) {c : Char} (hc : c ∈ cs) : Text.isBlank c = false := by
  rcases h.mem hc with hc | hc
  · rw [hc]
    decide
  · exact Address.isBlank_of_marked hc

theorem Spelled.trimChars (h : b.Spelled cs) : Text.trimChars cs = cs :=
  Text.trimChars_eq_self (fun _ hc => h.isBlank_of_mem (List.mem_of_head? hc))
    (fun _ hc => h.isBlank_of_mem (List.mem_of_getLast? hc))

theorem Spelled.ne_nil (h : b.Spelled cs) : cs ≠ [] := by
  cases h with
  | corners _ _ ha _ => exact List.append_ne_nil_of_left_ne_nil ha.ne_nil _
  | single _ _ ha => exact ha.ne_nil
  | columns _ _ _ hs _ => exact List.append_ne_nil_of_left_ne_nil hs.ne_nil _
  | rows _ _ _ hs _ => exact List.append_ne_nil_of_left_ne_nil hs.ne_nil _

end Rect

namespace Reference

theorem splitBang_of_forall_ne {cs : List Char} (h : ∀ c ∈ cs, c ≠ '!') (quoted : Bool) :
    splitBang quoted cs = none := by
  induction cs generalizing quoted with
  | nil => rfl
  | cons c cs ih =>
      rw [List.forall_mem_cons] at h
      rw [splitBang, ih h.2]
      dsimp only
      rw [if_neg fun hc => h.1 hc.1]

namespace Endpoint

/-- The column, the row or the cell at the end of a range is one of a sheet. -/
def OnSheet : Endpoint → Prop
  | .cell a => a.OnSheet
  | .column c => c < maxColumns
  | .row r => r < maxRows

/-- One end of a range as it may be written. -/
def Spelled : Endpoint → List Char → Prop
  | .cell a, cs => a.Spelled cs
  | .column c, cs => Column.Spelled c cs
  | .row r, cs => Row.Spelled r cs

variable {e : Endpoint} {cs : List Char}

theorem Spelled.mem (h : e.Spelled cs) {c : Char} (hc : c ∈ cs) : c = '$' ∨ Text.isPlain c = true := by
  cases e with
  | cell a => exact Address.Spelled.mem h hc
  | column c => exact Column.Spelled.mem h hc
  | row r => exact Row.Spelled.mem h hc

/-- The characters that are left when every dollar sign is passed over. -/
def unmarked (cs : List Char) : List Char := cs.filter (· ≠ '$')

theorem unmarked_append (cs ds : List Char) : unmarked (cs ++ ds) = unmarked cs ++ unmarked ds :=
  List.filter_append ..

@[simp]
theorem unmarked_dollar (m : Bool) : unmarked (Address.dollar m) = [] := by
  cases m <;> rfl

theorem unmarked_of_notMem (h : '$' ∉ cs) : unmarked cs = cs := by
  refine List.filter_eq_self.mpr fun c hc => decide_eq_true ?_
  rintro rfl
  exact h hc

theorem unmarked_of_isPlain (h : ∀ c ∈ cs, Text.isPlain c = true) : unmarked cs = cs :=
  unmarked_of_notMem fun hmem => Text.ne_dollar_of_isPlain (h '$' hmem) rfl

theorem unmarked_cell {m m' : Bool} {ls ds : List Char} (hls : Column.IsName ls)
    (hds : Row.IsNumber ds) :
    unmarked (Address.dollar m ++ ls ++ (Address.dollar m' ++ ds)) = ls ++ ds := by
  simp [unmarked_append, unmarked_of_isPlain fun _ => hls.isPlain,
    unmarked_of_isPlain fun _ => hds.isPlain]

/--
What is taken for one end of a range. The dollar signs of a column and of a row are passed over wherever
they stand, those of a cell are not.
-/
def Taken : Endpoint → List Char → Prop
  | .cell a, cs => a.Written cs
  | .column c, cs => Column.Names (unmarked cs) c
  | .row r, cs => Row.Numbers (unmarked cs) r

theorem Taken.onSheet (h : e.Taken cs) : e.OnSheet := by
  cases e with
  | cell a => exact Address.Written.onSheet h
  | column c => exact Column.Names.lt h
  | row r => exact Row.Numbers.lt h

theorem not_all_isLetter {ds : List Char} (h : Row.IsNumber ds) (hsub : ds ⊆ cs) :
    ¬ cs.all Text.isLetter = true := by
  intro hall
  obtain ⟨d, hd⟩ := List.exists_mem_of_ne_nil _ h.ne_nil
  have hletter := List.all_eq_true.mp hall d (hsub hd)
  rw [Text.isLetter_eq_false_of_isDigit (h.isDigit d hd)] at hletter
  cases hletter

theorem not_all_isDigit {ls : List Char} (h : Column.IsName ls) (hsub : ls ⊆ cs) :
    ¬ cs.all Text.isDigit = true := by
  intro hall
  obtain ⟨l, hl⟩ := List.exists_mem_of_ne_nil _ h.ne_nil
  have hletter := h.isLetter l hl
  rw [Text.isLetter_eq_false_of_isDigit (List.all_eq_true.mp hall l (hsub hl))] at hletter
  cases hletter

theorem toOption_map_eq_some {ε α β : Type} {x : Except ε α} {f : α → β} {y : β}
    (h : x.toOption.map f = some y) : ∃ a, x = .ok a ∧ f a = y := by
  cases x with
  | error e => cases h
  | ok a => exact ⟨a, rfl, Option.some.inj h⟩

/-- **An end of a range is read off what is taken for it, and off no other text.** -/
theorem ofChars?_eq_some_iff : ofChars? cs = some e ↔ e.Taken (Text.trimChars cs) := by
  unfold ofChars?
  dsimp only
  rw [← unmarked]
  constructor
  · intro h
    split at h
    · cases h
    · split at h
      · obtain ⟨col, hcol, rfl⟩ := toOption_map_eq_some h
        exact Column.ofLetters_eq_ok_iff.mp hcol
      · split at h
        · obtain ⟨row, hrow, rfl⟩ := Option.map_eq_some_iff.mp h
          exact Row.ofNumber?_eq_some_iff.mp hrow
        · obtain ⟨a, ha, rfl⟩ := toOption_map_eq_some h
          exact Address.ofChars_eq_ok_iff.mp ha
  · intro h
    cases e with
    | column c =>
        have hnames : Column.Names (unmarked (Text.trimChars cs)) c := h
        rw [if_neg hnames.ne_nil, if_pos (List.all_eq_true.mpr hnames.isLetter),
          Column.ofLetters_eq_ok_iff.mpr hnames]
        rfl
    | row r =>
        have hnumbers : Row.Numbers (unmarked (Text.trimChars cs)) r := h
        rw [if_neg hnumbers.ne_nil, if_neg (not_all_isLetter hnumbers.toIsNumber (List.Subset.refl _)),
          if_pos (List.all_eq_true.mpr hnumbers.isDigit), Row.ofNumber?_eq_some_iff.mpr hnumbers]
        rfl
    | cell a =>
        have hread : Address.ofChars cs = .ok a := Address.ofChars_eq_ok_iff.mpr h
        generalize Text.trimChars cs = ts at h
        cases h with
        | @mk m m' ls ds hls hds =>
            -- a letter and a digit are there, so it is neither a column nor a row alone
            rw [unmarked_cell hls.toIsName hds.toIsNumber,
              if_neg (List.append_ne_nil_of_left_ne_nil hls.ne_nil _),
              if_neg (not_all_isLetter hds.toIsNumber (List.subset_append_right _ _)),
              if_neg (not_all_isDigit hls.toIsName (List.subset_append_left _ _)), hread]
            rfl

theorem Spelled.taken (h : e.Spelled cs) (he : e.OnSheet) : e.Taken cs := by
  cases e with
  | cell a => exact Address.Spelled.written h he
  | column c =>
      obtain ⟨m, ls, hls, rfl⟩ := h
      have hnames := hls.names he
      show Column.Names (unmarked (Address.dollar m ++ ls)) c
      rwa [unmarked_append, unmarked_dollar, List.nil_append,
        unmarked_of_isPlain fun _ => hnames.isPlain]
  | row r =>
      obtain ⟨m, rfl⟩ := h
      have hnumbers := Row.numbers_digitsOf he
      show Row.Numbers (unmarked (Address.dollar m ++ Text.digitsOf (r + 1))) r
      rwa [unmarked_append, unmarked_dollar, List.nil_append,
        unmarked_of_isPlain fun _ => hnumbers.isPlain]

/-- **Both ends of a range are read, however they are spelled.** -/
theorem Spelled.ofChars? (h : e.Spelled cs) (he : e.OnSheet) : ofChars? cs = some e := by
  rw [ofChars?_eq_some_iff, Address.trimChars_of_marked fun _ => h.mem]
  exact h.taken he

end Endpoint

/-- Two ends of one kind, joined by a colon, are read as what lies between them. -/
theorem body?_joined (e e' : Endpoint) {cs cs' : List Char} (h : e.Spelled cs) (h' : e'.Spelled cs')
    (he : e.OnSheet) (he' : e'.OnSheet) : body? (cs ++ ':' :: cs') = e.span? e' := by
  have hcolon := Address.colon_notMem_of_marked fun _ => h.mem
  have hcolon' := Address.colon_notMem_of_marked fun _ => h'.mem
  have hsplit : (cs ++ ':' :: cs').splitOn ':' = [cs, cs'] := by
    rw [List.splitOn_append_cons_self_of_not_mem hcolon, List.splitOn_eq_singleton hcolon']
  have hne : cs ++ ':' :: cs' ≠ [] := List.append_ne_nil_of_right_ne_nil _ (List.cons_ne_nil _ _)
  rw [body?, if_neg hne, hsplit]
  dsimp only
  rw [h.ofChars? he, h'.ofChars? he']
  rfl

/-- **A rectangle of a sheet is read, however it is spelled.** -/
theorem body?_of_spelled {b : Rect} {cs : List Char} (h : b.Spelled cs) (hb : b.OnSheet) :
    body? cs = some b := by
  cases h with
  | @corners a a' cs cs' hrows hcols ha ha' =>
      have hrows_le := hrows.le b.rows_le
      have hcols_le := hcols.le b.cols_le
      have hon : a.OnSheet :=
        ⟨Nat.lt_of_le_of_lt hrows_le.1 hb.1, Nat.lt_of_le_of_lt hcols_le.1 hb.2⟩
      have hon' : a'.OnSheet :=
        ⟨Nat.lt_of_le_of_lt hrows_le.2 hb.1, Nat.lt_of_le_of_lt hcols_le.2 hb.2⟩
      rw [body?_joined (.cell a) (.cell a') ha ha' hon hon']
      exact congrArg some (Rect.ofCorners_of_ends hrows hcols)
  | @single a cs hfirst hlast ha =>
      have hon : a.OnSheet := hlast ▸ hb
      have hcolon := Address.colon_notMem_of_marked fun _ => ha.mem
      have hcell : Rect.cell a.row a.col = b :=
        Rect.ext (congrArg Address.row hfirst.symm) (congrArg Address.col hfirst.symm)
          (congrArg Address.row hlast.symm) (congrArg Address.col hlast.symm)
      rw [body?, if_neg ha.ne_nil, List.splitOn_eq_singleton hcolon]
      dsimp only
      rw [ha.ofChars hon]
      exact congrArg some hcell
  | @columns c c' cs cs' hr1 hr2 hcols hs hs' =>
      have hcols_le := hcols.le b.cols_le
      rw [body?_joined (.column c) (.column c') hs hs' (Nat.lt_of_le_of_lt hcols_le.1 hb.2)
        (Nat.lt_of_le_of_lt hcols_le.2 hb.2)]
      exact congrArg some (Rect.ofCorners_of_ends (Or.inl ⟨hr1.symm, hr2.symm⟩) hcols)
  | @rows r r' cs cs' hc1 hc2 hrows hs hs' =>
      have hrows_le := hrows.le b.rows_le
      rw [body?_joined (.row r) (.row r') hs hs' (Nat.lt_of_le_of_lt hrows_le.1 hb.1)
        (Nat.lt_of_le_of_lt hrows_le.2 hb.1)]
      exact congrArg some (Rect.ofCorners_of_ends hrows (Or.inl ⟨hc1.symm, hc2.symm⟩))

/-- No sheet is named in the spelling of a rectangle. -/
theorem splitBang_of_spelled {b : Rect} {cs : List Char} (h : b.Spelled cs) (quoted : Bool) :
    splitBang quoted cs = none :=
  splitBang_of_forall_ne (fun _ hc => h.ne_of_mem hc (by decide) (by decide) (by decide)) quoted

theorem range?_of_spelled {b : Rect} {cs : List Char} (h : b.Spelled cs) (hb : b.OnSheet) :
    range? cs = some b := by
  unfold range? splitSheet
  rw [h.trimChars, splitBang_of_spelled h]
  dsimp only
  rw [h.trimChars, body?_of_spelled h hb]

theorem rect?_text {b : Rect} (h : b.OnSheet) : rect? b.text = some b := by
  rw [rect?, Rect.toList_text]
  exact range?_of_spelled (b.spelled_markedChars {}) h

/-! ## What is read -/

theorem Endpoint.onSheet_of_ofChars? {cs : List Char} {e : Endpoint} (h : ofChars? cs = some e) :
    e.OnSheet :=
  (ofChars?_eq_some_iff.mp h).onSheet

theorem Endpoint.onSheet_of_span? {e e' : Endpoint} {b : Rect} (he : e.OnSheet) (he' : e'.OnSheet)
    (h : e.span? e' = some b) : b.OnSheet := by
  cases e with
  | cell a =>
      cases e' <;> cases h
      exact Rect.onSheet_ofCorners he he'
  | column c =>
      cases e' <;> cases h
      exact Rect.onSheet_ofCorners (a := ⟨0, c⟩) (b := ⟨maxRows - 1, _⟩) ⟨Nat.zero_lt_succ _, he⟩
        ⟨Nat.lt_succ_self _, he'⟩
  | row r =>
      cases e' <;> cases h
      exact Rect.onSheet_ofCorners (a := ⟨r, 0⟩) (b := ⟨_, maxColumns - 1⟩) ⟨he, Nat.zero_lt_succ _⟩
        ⟨he', Nat.lt_succ_self _⟩

/-- What a reference denotes lies on a sheet. -/
theorem onSheet_of_rect? {s : String} {b : Rect} (h : rect? s = some b) : b.OnSheet := by
  unfold rect? range? body? at h
  split at h
  · cases h
  · split at h
    · obtain ⟨a, ha, rfl⟩ := Endpoint.toOption_map_eq_some h
      exact Address.onSheet_of_ofChars ha
    · simp only [Option.bind_eq_bind, Option.bind_eq_some_iff] at h
      obtain ⟨e, he, e', he', hspan⟩ := h
      exact Endpoint.onSheet_of_span? (Endpoint.onSheet_of_ofChars? he)
        (Endpoint.onSheet_of_ofChars? he') hspan
    · cases h

/-- Two rectangles of a sheet are not written alike. -/
theorem eq_of_text_eq {b b' : Rect} (h : b.OnSheet) (h' : b'.OnSheet) (htext : b.text = b'.text) :
    b = b' := by
  have hread := rect?_text h
  rw [htext, rect?_text h'] at hread
  exact (Option.some.inj hread).symm

end Reference

end Sheetwise
