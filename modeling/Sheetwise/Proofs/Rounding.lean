import Sheetwise.Proofs.WholeParts

/-!
# Rounding keeps the order

A quotient is rounded to a double in two steps: a power of two is chosen, and the quotient is measured in it
and rounded to a whole number. For two quotients that take the same power the order is kept because
rounding to whole numbers keeps it. For different powers it is kept because the greater quotient has 53 bits
in its own, and the smaller one has at most 53 in a smaller one. What has fewer is only measured in the
least power, below which nothing is.
-/

namespace Sheetwise.Binary64

variable {num den num' den' : Nat} {e : Int}

/-! ## Whole numbers -/

theorem le_roundedQuotient (p : Nat × Nat × Nat) : p.1 ≤ roundedQuotient p := by
  unfold roundedQuotient
  split <;> omega

theorem roundedQuotient_le (p : Nat × Nat × Nat) : roundedQuotient p ≤ p.1 + 1 := by
  unfold roundedQuotient
  split <;> omega

/-- Rounding to whole numbers keeps the order. -/
theorem roundedQuotient_le_roundedQuotient {a b a' b' : Nat} (hb : 0 < b) (hb' : 0 < b')
    (h : (a : ℚ) / b ≤ a' / b') :
    roundedQuotient (a / b, a % b, b) ≤ roundedQuotient (a' / b', a' % b', b') := by
  have hfloor : a / b ≤ a' / b' := by
    have hle := Nat.floor_mono h
    rwa [Nat.floor_div_eq_div, Nat.floor_div_eq_div] at hle
  rcases Nat.lt_or_eq_of_le hfloor with hlt | heq
  · calc roundedQuotient (a / b, a % b, b) ≤ a / b + 1 := roundedQuotient_le _
      _ ≤ a' / b' := hlt
      _ ≤ roundedQuotient (a' / b', a' % b', b') := le_roundedQuotient (a' / b', a' % b', b')
  · -- of two with the same whole part, the one that leaves more is rounded up if the other one is
    have hcross : a * b' ≤ a' * b := by
      rw [div_le_div_iff₀ (by exact_mod_cast hb) (by exact_mod_cast hb')] at h
      exact_mod_cast h
    have hrest : b' * (2 * (a % b)) ≤ b * (2 * (a' % b')) := by
      have hsplit := Nat.div_add_mod a b
      have hsplit' := Nat.div_add_mod a' b'
      rw [← hsplit, ← hsplit', ← heq] at hcross
      linarith
    have hhalf (h : b ≤ 2 * (a % b)) : b' ≤ 2 * (a' % b') := by
      refine Nat.le_of_mul_le_mul_left ?_ hb
      calc b * b' = b' * b := Nat.mul_comm _ _
        _ ≤ b' * (2 * (a % b)) := Nat.mul_le_mul_left _ h
        _ ≤ b * (2 * (a' % b')) := hrest
    have hmore (h : b < 2 * (a % b)) : b' < 2 * (a' % b') := by
      refine Nat.lt_of_mul_lt_mul_left (a := b) ?_
      calc b * b' = b' * b := Nat.mul_comm _ _
        _ < b' * (2 * (a % b)) := Nat.mul_lt_mul_of_pos_left h hb'
        _ ≤ b * (2 * (a' % b')) := hrest
    unfold roundedQuotient
    dsimp only
    rw [← heq]
    split_ifs <;> omega

/-! ## The power of two -/

/-- A quotient at a power of two is one of natural numbers. -/
theorem exists_quotientAt (num : Nat) (hden : 0 < den) (e : Int) : ∃ a b : Nat, 0 < b
    ∧ quotientAt num den e = (a / b, a % b, b) ∧ (a : ℚ) / b = num / den / 2 ^ e := by
  unfold quotientAt
  by_cases he : 0 ≤ e
  · obtain ⟨k, rfl⟩ := Int.eq_ofNat_of_zero_le he
    rw [if_pos he, Int.toNat_natCast]
    refine ⟨num, den * 2 ^ k, Nat.mul_pos hden (by positivity), rfl, ?_⟩
    rw [zpow_natCast, Nat.cast_mul, Nat.cast_pow, Nat.cast_ofNat, div_div]
  · obtain ⟨k, hk⟩ := Int.eq_ofNat_of_zero_le (show 0 ≤ -e by omega)
    obtain rfl : e = -(k : Int) := by omega
    rw [if_neg he, neg_neg, Int.toNat_natCast]
    refine ⟨num * 2 ^ k, den, hden, rfl, ?_⟩
    rw [zpow_neg, zpow_natCast, Nat.cast_mul, Nat.cast_pow, Nat.cast_ofNat, div_inv_eq_mul]
    ring

/-- The whole part of a quotient at a power of two has at most so many bits. -/
theorem quotientAt_lt_iff (num : Nat) (hden : 0 < den) (e : Int) (k : Nat) :
    (quotientAt num den e).1 < 2 ^ k ↔ (num : ℚ) / den < 2 ^ (e + k) := by
  obtain ⟨a, b, hb, hquotient, hvalue⟩ := exists_quotientAt num hden e
  have hb' : (0 : ℚ) < b := by exact_mod_cast hb
  have hscale : (num : ℚ) / den < 2 ^ (e + k) ↔ (num : ℚ) / den / 2 ^ e < 2 ^ k := by
    rw [zpow_add₀ (by norm_num), zpow_natCast, div_lt_iff₀ (show (0 : ℚ) < 2 ^ e by positivity),
      mul_comm (2 ^ e : ℚ)]
  rw [hscale, ← hvalue, div_lt_iff₀ hb', hquotient, Nat.div_lt_iff_lt_mul hb]
  exact_mod_cast Iff.rfl

/-- The power of two that a quotient is measured in. -/
def exponentOf (num den : Nat) : Int :=
  let guess : Int := max ((num.log2 : Int) - (den.log2 : Int) - 53) (-1074)
  if (quotientAt num den guess).1 < 2 ^ 53 then guess else guess + 1

/-- The logarithms tell the size of a quotient up to one bit. -/
theorem log2_bounds (hnum : 0 < num) (hden : 0 < den) :
    (2 : ℚ) ^ ((num.log2 : Int) - den.log2 - 1) ≤ num / den
      ∧ (num : ℚ) / den < 2 ^ ((num.log2 : Int) - den.log2 + 1) := by
  have hpos : (0 : ℚ) < den := by exact_mod_cast hden
  have hnumLow : ((2 ^ num.log2 : Nat) : ℚ) ≤ num := by exact_mod_cast Nat.log2_self_le hnum.ne'
  have hnumHigh : (num : ℚ) < ((2 ^ (num.log2 + 1) : Nat) : ℚ) := by
    exact_mod_cast Nat.lt_log2_self (n := num)
  have hdenLow : ((2 ^ den.log2 : Nat) : ℚ) ≤ den := by exact_mod_cast Nat.log2_self_le hden.ne'
  have hdenHigh : (den : ℚ) ≤ ((2 ^ (den.log2 + 1) : Nat) : ℚ) := by
    exact_mod_cast (Nat.lt_log2_self (n := den)).le
  push_cast at hnumLow hnumHigh hdenLow hdenHigh
  constructor
  · have hexp : (num.log2 : Int) - den.log2 - 1 = num.log2 - ((den.log2 + 1 : Nat) : Int) := by omega
    rw [hexp, zpow_sub₀ (by norm_num), zpow_natCast, zpow_natCast]
    exact div_le_div₀ (by positivity) hnumLow hpos hdenHigh
  · have hexp : (num.log2 : Int) - den.log2 + 1 = ((num.log2 + 1 : Nat) : Int) - den.log2 := by omega
    rw [hexp, zpow_sub₀ (by norm_num), zpow_natCast, zpow_natCast]
    exact div_lt_div₀ hnumHigh hdenLow (by positivity) (by positivity)

/-- In that power a quotient has 53 bits, or fewer if it is the least one. -/
theorem exponentOf_bounds (hnum : 0 < num) (hden : 0 < den) : -1074 ≤ exponentOf num den
    ∧ (num : ℚ) / den < 2 ^ (exponentOf num den + 53)
    ∧ (exponentOf num den = -1074 ∨ (2 : ℚ) ^ (exponentOf num den + 52) ≤ num / den) := by
  obtain ⟨hlow, hhigh⟩ := log2_bounds hnum hden
  have hmono {i j : Int} (h : i ≤ j) : (2 : ℚ) ^ i ≤ 2 ^ j := zpow_le_zpow_right₀ (by norm_num) h
  unfold exponentOf
  dsimp only
  split
  · next h =>
    rw [quotientAt_lt_iff num hden] at h
    refine ⟨le_max_right _ _, h, ?_⟩
    rcases le_or_gt ((num.log2 : Int) - den.log2 - 53) (-1074) with hle | hgt
    · exact Or.inl (max_eq_right hle)
    · rw [max_eq_left hgt.le]
      exact Or.inr ((hmono (by omega)).trans hlow)
  · next h =>
    rw [quotientAt_lt_iff num hden, not_lt] at h
    refine ⟨by omega, hhigh.trans_le (hmono (by omega)), Or.inr ((hmono ?_).trans h)⟩
    push_cast
    omega

/-- The same of the whole part that is rounded. -/
theorem quotientAt_exponentOf_bounds (hnum : 0 < num) (hden : 0 < den) :
    (quotientAt num den (exponentOf num den)).1 < 2 ^ 53
      ∧ (exponentOf num den = -1074 ∨ ¬ (quotientAt num den (exponentOf num den)).1 < 2 ^ 52) := by
  obtain ⟨-, hhigh, hlow⟩ := exponentOf_bounds hnum hden
  rw [quotientAt_lt_iff num hden, quotientAt_lt_iff num hden, not_lt]
  exact_mod_cast And.intro hhigh hlow

/-! ## Bits -/

/-- The bits of a quotient: how often its power of two was doubled, and what it is in that power. -/
theorem nearestBits_eq_min (hnum : 0 < num) (hden : 0 < den) : nearestBits num den
    = min ((exponentOf num den + 1074).toNat * 2 ^ 52
      + roundedQuotient (quotientAt num den (exponentOf num den))) infinityBits := by
  have hleast := (exponentOf_bounds hnum hden).1
  have hbits : nearestBits num den
      = bitsAt (exponentOf num den) (roundedQuotient (quotientAt num den (exponentOf num den))) := by
    rw [nearestBits_eq, if_neg (by omega)]
    rfl
  have hinf := infinityBits_eq
  have hround := le_roundedQuotient (quotientAt num den (exponentOf num den))
  rw [hbits, bitsAt]
  split
  · next hq =>
    -- what has fewer than 53 bits after rounding had so before, so its power is the least one
    obtain hleast | hmany := (quotientAt_exponentOf_bounds hnum hden).2
    · have hnone : (exponentOf num den + 1074).toNat = 0 := by omega
      rw [hnone]
      omega
    · omega
  · next hq =>
    have hstep : (exponentOf num den + 1075).toNat = (exponentOf num den + 1074).toNat + 1 := by omega
    rw [hstep, Nat.add_one_mul, Nat.add_assoc, Nat.add_sub_cancel' (Nat.not_lt.mp hq)]

/-- **Rounding keeps the order.** -/
theorem nearestBits_mono (hden : 0 < den) (hden' : 0 < den')
    (h : (num : ℚ) / den ≤ num' / den') : nearestBits num den ≤ nearestBits num' den' := by
  rcases Nat.eq_zero_or_pos num with rfl | hnum
  · rw [nearestBits_eq 0, if_pos (Or.inl rfl)]
    exact Nat.zero_le _
  have hnum' : 0 < num' := by
    have hpos : (0 : ℚ) < num' / den' := lt_of_lt_of_le (by positivity) h
    rcases Nat.eq_zero_or_pos num' with rfl | hpos'
    · simp at hpos
    · exact hpos'
  obtain ⟨hleast, -, hlow⟩ := exponentOf_bounds hnum hden
  obtain ⟨hleast', hhigh', -⟩ := exponentOf_bounds hnum' hden'
  have hmono {i j : Int} (h : (2 : ℚ) ^ i < 2 ^ j) : i < j := (zpow_lt_zpow_iff_right₀ (by norm_num)).mp h
  have hexp : exponentOf num den ≤ exponentOf num' den' := by
    rcases hlow with heq | hlow
    · omega
    · have := hmono ((hlow.trans h).trans_lt hhigh')
      omega
  rw [nearestBits_eq_min hnum hden, nearestBits_eq_min hnum' hden']
  refine min_le_min_right _ ?_
  obtain ⟨a, b, hb, hquotient, hvalue⟩ := exists_quotientAt num hden (exponentOf num den)
  obtain ⟨a', b', hb', hquotient', hvalue'⟩ := exists_quotientAt num' hden' (exponentOf num' den')
  rcases hexp.lt_or_eq with hlt | heq
  · -- the greater power leaves 53 bits, and the smaller one no more
    have hbits := (quotientAt_exponentOf_bounds hnum hden).1
    have hbits' := (quotientAt_exponentOf_bounds hnum' hden').2.resolve_left (by omega)
    have hround := roundedQuotient_le (quotientAt num den (exponentOf num den))
    have hround' := le_roundedQuotient (quotientAt num' den' (exponentOf num' den'))
    omega
  · have hround := roundedQuotient_le_roundedQuotient hb hb' (by
      rw [hvalue, hvalue', heq]
      exact div_le_div_of_nonneg_right h (by positivity))
    rw [hquotient, hquotient', heq]
    omega

/-- Greater bits stand for greater magnitudes. -/
theorem magnitude_mono : Monotone magnitude := by
  intro bits bits' h
  refine magnitude_le ?_
  rw [exponent_eq, exponent_eq, mantissa_eq, mantissa_eq]
  split_ifs <;> omega

end Sheetwise.Binary64
