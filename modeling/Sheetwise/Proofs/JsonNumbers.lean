import Sheetwise.Json.Reader
import Sheetwise.Json.Writer
import Sheetwise.Proofs.Decimals
import Sheetwise.Proofs.Fields
import Sheetwise.Proofs.Spelling

/-!
# Numbers in JSON text

A number is a sign, digits, digits behind a point and an exponent, of which the reader takes one after the
other, each up to the first character that cannot be in it. Behind a number a text ends, or there is a
mark that separates or closes, and no mark can be in a number. So a number is read back whatever comes
behind it.

What is read is the number that was written. An integer has neither point nor exponent. A floating-point
number always has one of them, and where its point stands makes no difference: with zeros before its digits,
with zeros behind them or with an exponent, it is the same decimal, and it is read as the same double.
-/

namespace Sheetwise.Json

/-- What may come behind a value: nothing, or a mark that separates or closes. -/
def Ends (rest : List Char) : Prop := ∀ c ∈ rest.head?, c = ',' ∨ c = ']' ∨ c = '\x7d'

theorem Ends.head? {rest : List Char} (h : Ends rest) :
    ∀ c ∈ rest.head?, Text.isDigit c = false ∧ c ≠ '.' ∧ c ≠ 'e' ∧ c ≠ 'E' := by
  intro c hc
  rcases h c hc with rfl | rfl | rfl <;> decide

namespace Numeral

variable {n : Numeral} {rest : List Char}

/-- The digits behind the point as they are written, with the point. -/
def fractionChars (n : Numeral) : List Char := if n.fraction = [] then [] else '.' :: n.fraction

/-- The exponent as it is written. -/
def exponentChars (n : Numeral) : List Char :=
  (n.exponent.map fun e => 'e' :: (Text.ofInt e).toList).getD []

/-- A number as it is written. -/
def chars (n : Numeral) : List Char :=
  (if n.negative then ['-'] else []) ++ (n.whole ++ (n.fractionChars ++ n.exponentChars))

/-- A number of digits, with no zeros that lead it. -/
structure WellFormed (n : Numeral) : Prop where
  some_digit : n.whole ≠ []
  whole : ∀ c ∈ n.whole, Text.isDigit c = true
  lead : n.whole.head? = some '0' → n.whole.length ≤ 1
  fraction : ∀ c ∈ n.fraction, Text.isDigit c = true

theorem exponentDigits?_ofInt (e : Int) (hrest : ∀ c ∈ rest.head?, Text.isDigit c = false) :
    exponentDigits? ((Text.ofInt e).toList ++ rest) = some (e, rest) := by
  have hdigits : ∀ c ∈ Text.digitsOf e.natAbs, Text.isDigit c = true :=
    fun c => Text.isDigit_of_mem_digitsOf
  obtain ⟨htake, hdrop⟩ := Text.span_digits hdigits hrest
  obtain ⟨hne, -, hvalue⟩ := Text.digits?_eq_some_iff.mp (Text.digits?_digitsOf e.natAbs)
  rw [Text.ofInt, String.toList_ofList]
  by_cases he : e < 0
  · rw [if_pos he, List.cons_append, exponentDigits?]
    dsimp only
    rw [htake, hdrop, if_neg hne, hvalue, if_pos rfl, Int.ofNat_natAbs_of_nonpos he.le, neg_neg]
  · have hsign : ∀ c ∈ (Text.digitsOf e.natAbs ++ rest).head?, c ≠ '-' ∧ c ≠ '+' := by
      rw [List.head?_append_of_ne_nil _ hne]
      exact fun c hc => Text.ne_sign_of_isDigit (hdigits c (List.mem_of_mem_head? hc))
    rw [if_neg he]
    unfold exponentDigits?
    split
    next negative cs hcs =>
    split at hcs
    · next tail htail => exact absurd rfl (hsign '-' (by rw [htail]; rfl)).1
    · next tail htail => exact absurd rfl (hsign '+' (by rw [htail]; rfl)).2
    · cases hcs
      dsimp only
      rw [htake, hdrop, if_neg hne, hvalue, if_neg (by decide), Int.natAbs_of_nonneg (not_lt.mp he)]

theorem exponentPart?_exponentChars (n : Numeral) (hrest : Ends rest) :
    exponentPart? (n.exponentChars ++ rest) = some (n.exponent, rest) := by
  unfold exponentChars
  cases n.exponent with
  | none =>
      rw [Option.map_none, Option.getD_none, List.nil_append]
      unfold exponentPart?
      split
      · exact absurd rfl (hrest.head? 'e' rfl).2.2.1
      · exact absurd rfl (hrest.head? 'E' rfl).2.2.2
      · rfl
  | some e =>
      rw [Option.map_some, Option.getD_some, List.cons_append, exponentPart?,
        exponentDigits?_ofInt e fun c hc => (hrest.head? c hc).1]
      rfl

/-- Behind its digits a number ends, if it does not go on with a point or an exponent. -/
theorem head?_exponentChars (n : Numeral) (hrest : Ends rest) :
    ∀ c ∈ (n.exponentChars ++ rest).head?, Text.isDigit c = false ∧ c ≠ '.' := by
  unfold exponentChars
  cases n.exponent with
  | none => exact fun c hc => ⟨(hrest.head? c hc).1, (hrest.head? c hc).2.1⟩
  | some e =>
      rintro _ ⟨⟩
      decide

theorem fractionPart?_fractionChars (h : n.WellFormed) (hrest : Ends rest) :
    fractionPart? (n.fractionChars ++ (n.exponentChars ++ rest))
      = some (n.fraction, n.exponentChars ++ rest) := by
  have hhead := n.head?_exponentChars hrest
  unfold fractionChars
  by_cases hnone : n.fraction = []
  · rw [if_pos hnone, List.nil_append, hnone]
    unfold fractionPart?
    split
    · next tail htail => exact absurd rfl (hhead '.' (by rw [htail]; rfl)).2
    · rfl
  · obtain ⟨htake, hdrop⟩ := Text.span_digits h.fraction fun c hc => (hhead c hc).1
    rw [if_neg hnone, List.cons_append, fractionPart?, htake, hdrop, if_neg hnone]

theorem head?_fractionChars (n : Numeral) (hrest : Ends rest) :
    ∀ c ∈ (n.fractionChars ++ (n.exponentChars ++ rest)).head?, Text.isDigit c = false := by
  unfold fractionChars
  split
  · exact fun c hc => (n.head?_exponentChars hrest c hc).1
  · rintro _ ⟨⟩
    decide

theorem minus_chars (h : n.WellFormed) (rest : List Char) : minus (n.chars ++ rest)
    = (n.negative, n.whole ++ (n.fractionChars ++ (n.exponentChars ++ rest))) := by
  have hfirst : ∀ c ∈ (n.whole ++ (n.fractionChars ++ (n.exponentChars ++ rest))).head?, c ≠ '-' := by
    rw [List.head?_append_of_ne_nil _ h.some_digit]
    exact fun c hc => (Text.ne_sign_of_isDigit (h.whole c (List.mem_of_mem_head? hc))).1
  simp only [chars, List.append_assoc]
  cases n.negative with
  | true => rfl
  | false =>
      rw [if_neg Bool.false_ne_true, List.nil_append]
      unfold minus
      split
      · next tail htail => exact absurd rfl (hfirst '-' (by rw [htail]; rfl))
      · rfl

/-- **A number is read up to what ends it.** -/
theorem numeral?_chars (h : n.WellFormed) (hrest : Ends rest) :
    numeral? (n.chars ++ rest) = some (n, rest) := by
  obtain ⟨htake, hdrop⟩ := Text.span_digits h.whole (n.head?_fractionChars hrest)
  have hlead : ¬ (n.whole = [] ∨ (n.whole.head? = some '0' ∧ 1 < n.whole.length)) := by
    rintro (hnone | ⟨hzero, hlong⟩)
    · exact h.some_digit hnone
    · exact absurd (h.lead hzero) (not_le.mpr hlong)
  rw [numeral?, minus_chars h rest]
  dsimp only
  rw [htake, hdrop, if_neg hlead]
  exact read_then (fractionPart?_fractionChars h hrest)
    (read_then (exponentPart?_exponentChars n hrest) rfl)

end Numeral

/-! ## Integers -/

/-- An integer of 64 bits, with a sign or without one. -/
def IsInteger (n : Int) : Prop := -9223372036854775808 ≤ n ∧ n ≤ 18446744073709551615

namespace Numeral

/-- An integer as a number. -/
def ofInt (n : Int) : Numeral where
  negative := decide (n < 0)
  whole := Text.digitsOf n.natAbs
  fraction := []
  exponent := none

theorem chars_ofInt (n : Int) : (ofInt n).chars = (Text.ofInt n).toList := by
  rw [Text.ofInt, String.toList_ofList]
  simp only [chars, ofInt, fractionChars, exponentChars, decide_eq_true_eq]
  split
  · simp
  · simp

theorem wellFormed_ofInt (n : Int) : (ofInt n).WellFormed where
  some_digit := Text.digitsOf_ne_nil _
  whole := fun _ => Text.isDigit_of_mem_digitsOf
  lead := fun hzero => by rw [ofInt, Text.digitsOf_eq_of_head? hzero]; rfl
  fraction := List.forall_mem_nil _

theorem value?_ofInt {n : Int} (h : IsInteger n) : (ofInt n).value? = some (.int n) := by
  obtain ⟨hlow, hhigh⟩ := h
  have hsize := (Text.digits?_eq_some_iff.mp (Text.digits?_digitsOf n.natAbs)).2.2
  simp only [value?, ofInt, hsize, decide_eq_false_iff_not, decide_eq_true_eq, Nat.pow_eq]
  by_cases hn : n < 0
  · rw [if_neg fun hpos => hpos.1 hn, if_pos ⟨hn, by omega, by omega⟩]
    congr 2
    omega
  · rw [if_pos ⟨hn, by omega⟩]
    congr 2
    omega

end Numeral

/-! ## Floating-point numbers -/

/-- Each zero behind a number makes ten of it. -/
theorem digitsValue_append_zeros (ds : List Char) (k : Nat) :
    Text.digitsValue (ds ++ List.replicate k '0') = Text.digitsValue ds * 10 ^ k := by
  induction k with
  | zero => simp
  | succ k ih =>
      rw [List.replicate_succ', ← List.append_assoc, Text.digitsValue, List.foldl_append]
      show 10 * Text.digitsValue (ds ++ List.replicate k '0') + 0 = _
      rw [ih, Nat.add_zero, Nat.mul_left_comm, Nat.mul_comm 10, Nat.pow_succ]

/-- **The digits of a double read back as the double.** -/
theorem decimalBits_decimal {x : Float} (h : Binary64.isFinite x) :
    Text.decimalBits (decimal x).1 (decimal x).2 = Binary64.magnitudeBits x := by
  have hfinite : Binary64.magnitudeBits x < Binary64.infinityBits := of_decide_eq_true h
  unfold decimal
  dsimp only
  split
  · next hzero =>
    rw [hzero]
    exact Text.decimalBits_of_small (.inl rfl)
  · next hpos =>
    rw [Text.decimalBits_congr (Text.dropZeros_value ..)]
    exact Text.decimalBits_shortestDigits (Nat.pos_of_ne_zero hpos) hfinite

/-- Zero has no exponent. -/
theorem decimal_zero {x : Float} (h : Binary64.isFinite x) (hzero : (decimal x).1 = 0) :
    (decimal x).2 = 0 := by
  have hbits := decimalBits_decimal h
  rw [hzero, Text.decimalBits_of_small (.inl rfl)] at hbits
  unfold decimal
  rw [← hbits]
  rfl

namespace Numeral

/-- A decimal as a number: in full if it is of moderate size, else with an exponent. -/
def ofDecimal (negative : Bool) (d : Nat) (e : Int) : Numeral :=
  let ds := Text.digitsOf d
  let point : Int := ds.length + e
  let places := (-e).toNat
  if 0 ≤ e ∧ point ≤ plainDigits then ⟨negative, ds ++ List.replicate e.toNat '0', ['0'], none⟩
  else if -5 < point ∧ point ≤ plainDigits then
    if places < ds.length then
      ⟨negative, ds.take (ds.length - places), ds.drop (ds.length - places), none⟩
    else ⟨negative, ['0'], List.replicate (places - ds.length) '0' ++ ds, none⟩
  else ⟨negative, ds.take 1, ds.drop 1, some (point - 1)⟩

variable (negative : Bool) (d : Nat) (e : Int)

theorem negative_ofDecimal : (ofDecimal negative d e).negative = negative := by
  unfold ofDecimal
  dsimp only
  split_ifs <;> rfl

theorem chars_of_body {n : Numeral} {negative : Bool} {body : List Char} (hsign : n.negative = negative)
    (hbody : n.whole ++ (n.fractionChars ++ n.exponentChars) = body) :
    n.chars = if negative then '-' :: body else body := by
  rw [chars, hbody, hsign]
  cases negative <;> rfl

/-- A double is written as the number that its digits make. -/
theorem chars_ofDecimal (x : Float) :
    (ofDecimal (Binary64.isNegative x) (decimal x).1 (decimal x).2).chars = floatChars x := by
  unfold floatChars
  dsimp only
  refine chars_of_body (negative_ofDecimal ..) ?_
  generalize Binary64.isNegative x = negative
  generalize (decimal x).1 = d
  generalize (decimal x).2 = e
  unfold ofDecimal
  dsimp only
  by_cases hwhole : 0 ≤ e ∧ ((Text.digitsOf d).length : Int) + e ≤ plainDigits
  · rw [if_pos hwhole, if_pos hwhole]
    simp [fractionChars, exponentChars, Text.positional, hwhole.1]
  rw [if_neg hwhole, if_neg hwhole]
  by_cases hplain : -5 < ((Text.digitsOf d).length : Int) + e
      ∧ ((Text.digitsOf d).length : Int) + e ≤ plainDigits
  · have he : ¬ 0 ≤ e := fun he => hwhole ⟨he, hplain.2⟩
    rw [if_pos hplain, if_pos hplain]
    by_cases hplaces : (-e).toNat < (Text.digitsOf d).length
    · have hsome : ¬ (Text.digitsOf d).length ≤ (Text.digitsOf d).length - (-e).toNat := by omega
      simp [fractionChars, exponentChars, Text.positional, he, hplaces, hsome]
    · have hne := Text.digitsOf_ne_nil d
      simp [fractionChars, exponentChars, Text.positional, he, hplaces, hne]
  · rw [if_neg hplain, if_neg hplain]
    by_cases hone : 1 < (Text.digitsOf d).length
    · have hsome : ¬ (Text.digitsOf d).length ≤ 1 := by omega
      rw [if_pos hone, fractionChars, if_neg (by rwa [List.drop_eq_nil_iff])]
      simp [exponentChars]
    · rw [if_neg hone, fractionChars, if_pos (List.drop_eq_nil_iff.mpr (by omega))]
      simp [exponentChars]

theorem wellFormed_ofDecimal (h : d = 0 → e = 0) :
    (ofDecimal negative d e).WellFormed := by
  have hne := Text.digitsOf_ne_nil d
  have hlength := List.length_pos_iff.mpr hne
  have hdigit : ∀ c ∈ Text.digitsOf d, Text.isDigit c = true := fun _ => Text.isDigit_of_mem_digitsOf
  have hzeros (k : Nat) : ∀ c ∈ List.replicate k '0', Text.isDigit c = true := by
    intro c hc
    rw [List.eq_of_mem_replicate hc]
    decide
  have hlead : (Text.digitsOf d).head? = some '0' → (Text.digitsOf d).length = 1 :=
    fun hzero => by rw [Text.digitsOf_eq_of_head? hzero]; rfl
  unfold ofDecimal
  dsimp only
  split_ifs with hwhole hplain hplaces
  · refine ⟨List.append_ne_nil_of_left_ne_nil hne _, List.forall_mem_append.mpr ⟨hdigit, hzeros _⟩,
      fun hzero => ?_, List.forall_mem_singleton.mpr (by decide)⟩
    rw [List.head?_append_of_ne_nil _ hne] at hzero
    -- only zero begins with a zero, and it has no zeros behind it
    have hd : d = 0 := by
      by_contra hd
      exact Text.head?_digitsOf_ne_zero hd hzero
    rw [h hd, List.length_append, hlead hzero]
    simp
  · refine ⟨List.ne_nil_of_length_pos ?_, fun c hc => hdigit c (List.mem_of_mem_take hc),
      fun hzero => ?_, fun c hc => hdigit c (List.mem_of_mem_drop hc)⟩
    · rw [List.length_take]
      omega
    · rw [List.head?_take, if_neg (by omega)] at hzero
      rw [List.length_take, hlead hzero]
      exact Nat.min_le_right _ _
  · exact ⟨List.cons_ne_nil _ _, List.forall_mem_singleton.mpr (by decide), fun _ => le_rfl,
      List.forall_mem_append.mpr ⟨hzeros _, hdigit⟩⟩
  · refine ⟨List.ne_nil_of_length_pos ?_, fun c hc => hdigit c (List.mem_of_mem_take hc),
      fun _ => List.length_take_le 1 _, fun c hc => hdigit c (List.mem_of_mem_drop hc)⟩
    rw [List.length_take]
    omega

/-- A decimal shows by a point or an exponent that it is no integer. -/
theorem isDecimal_ofDecimal :
    (ofDecimal negative d e).fraction ≠ [] ∨ (ofDecimal negative d e).exponent ≠ none := by
  have hlength := List.length_pos_iff.mpr (Text.digitsOf_ne_nil d)
  unfold ofDecimal
  dsimp only
  split_ifs with hwhole hplain hplaces
  · exact .inl (List.cons_ne_nil _ _)
  · refine .inl ?_
    rw [ne_eq, List.drop_eq_nil_iff]
    omega
  · exact .inl (List.append_ne_nil_of_right_ne_nil _ (Text.digitsOf_ne_nil d))
  · exact .inr (Option.some_ne_none _)

theorem value_ofDecimal :
    (Text.digitsValue ((ofDecimal negative d e).whole ++ (ofDecimal negative d e).fraction) : ℚ)
      * 10 ^ ((ofDecimal negative d e).exponent.getD 0 - ((ofDecimal negative d e).fraction.length : Int))
      = d * 10 ^ e := by
  have hlength := List.length_pos_iff.mpr (Text.digitsOf_ne_nil d)
  have hvalue := (Text.digits?_eq_some_iff.mp (Text.digits?_digitsOf d)).2.2
  unfold ofDecimal
  dsimp only
  split_ifs with hwhole hplain hplaces
  · have hzeros : Text.digitsOf d ++ List.replicate e.toNat '0' ++ ['0']
        = Text.digitsOf d ++ List.replicate (e.toNat + 1) '0' := by
      rw [List.append_assoc, ← List.replicate_succ']
    rw [hzeros, digitsValue_append_zeros, hvalue, Text.zpow_ten_of_nonneg hwhole.1, pow_succ,
      Option.getD_none, List.length_singleton, Nat.cast_one, zero_sub, zpow_neg_one]
    push_cast
    ring
  · have he : ¬ 0 ≤ e := fun he => hwhole ⟨he, hplain.2⟩
    rw [List.take_append_drop, hvalue, List.length_drop]
    congr 2
    dsimp only [Option.getD_none]
    omega
  · have he : ¬ 0 ≤ e := fun he => hwhole ⟨he, hplain.2⟩
    have hzeros (k : Nat) : ['0'] ++ (List.replicate k '0' ++ Text.digitsOf d)
        = List.replicate (k + 1) '0' ++ Text.digitsOf d := rfl
    rw [hzeros, Text.digitsValue_zeros_append, hvalue, List.length_append, List.length_replicate]
    congr 2
    dsimp only [Option.getD_none]
    omega
  · rw [List.take_append_drop, hvalue, List.length_drop]
    congr 2
    dsimp only [Option.getD_some]
    omega

theorem value?_of_isDecimal {n : Numeral} (h : n.fraction ≠ [] ∨ n.exponent ≠ none) :
    n.value? = finite? (Text.nearestDecimal n.negative (Text.digitsValue (n.whole ++ n.fraction))
      (n.exponent.getD 0 - (n.fraction.length : Int))) := by
  unfold value?
  split
  · next hfraction hexponent =>
    rcases h with h | h
    · exact absurd hfraction h
    · exact absurd hexponent h
  · rfl

/-- **A finite double is read back from the number that it is written as.** -/
theorem value?_ofDecimal {x : Float} (h : Binary64.isFinite x) :
    (ofDecimal (Binary64.isNegative x) (decimal x).1 (decimal x).2).value? = some (.float x) := by
  have hbits := decimalBits_decimal h
  rw [← Text.decimalBits_congr (value_ofDecimal (Binary64.isNegative x) _ _)] at hbits
  rw [value?_of_isDecimal (isDecimal_ofDecimal ..), negative_ofDecimal,
    Text.nearestDecimal_of_decimalBits hbits]
  exact if_pos h

end Numeral

end Sheetwise.Json
