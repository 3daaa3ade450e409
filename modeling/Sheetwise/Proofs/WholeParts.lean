import Sheetwise.Proofs.DoubleBits
import Sheetwise.Proofs.Doubles

/-!
# Whole parts of doubles

A double that is a number is compared by its exponent and its mantissa, and cut to a whole number in
integers. Both agree with its exact value, a fraction: the comparison with the order of fractions, the
cut with rounding toward zero. Whole numbers of at most 53 bits are exact, so a double that is not above
one of them is not cut to anything above it, however large or odd it is.
-/

namespace Sheetwise

/-- The number that a fraction stands for. -/
def Fraction.value (f : Fraction) : ℚ := f.num / f.den

namespace Binary64

/-! ## Values -/

/-- The number that a magnitude is. -/
def magnitude (bits : Nat) : ℚ := mantissa bits * 2 ^ exponent bits

/-- The number that a finite double is. -/
def value (x : Float) : ℚ :=
  if isNegative x then -magnitude (magnitudeBits x) else magnitude (magnitudeBits x)

theorem magnitude_nonneg (bits : Nat) : 0 ≤ magnitude bits := by
  unfold magnitude
  positivity

theorem mantissa_lt (bits : Nat) : mantissa bits < 2 ^ 53 := by
  rw [mantissa_eq]
  split <;> omega

theorem den_pos (bits : Nat) : 0 < (fraction bits).den := by
  unfold fraction
  split
  · exact Nat.one_pos
  · exact Nat.pow_pos (by decide)

/-- The fraction of a magnitude is exact. -/
theorem num_div_den_eq_magnitude (bits : Nat) :
    ((fraction bits).num : ℚ) / (fraction bits).den = magnitude bits := by
  unfold fraction magnitude
  split
  · next h =>
    have hexp : (2 : ℚ) ^ exponent bits = ((2 ^ (exponent bits).toNat : Nat) : ℚ) := by
      obtain ⟨e, he⟩ := Int.eq_ofNat_of_zero_le h
      rw [he, Int.toNat_natCast, zpow_natCast, Nat.cast_pow, Nat.cast_ofNat]
    rw [hexp, ← Nat.cast_mul, Nat.cast_one, div_one]
    rfl
  · next h =>
    have hexp : (2 : ℚ) ^ exponent bits = ((2 ^ (-exponent bits).toNat : Nat) : ℚ)⁻¹ := by
      obtain ⟨e, he⟩ := Int.eq_ofNat_of_zero_le (show 0 ≤ -exponent bits by omega)
      have he' : exponent bits = -(e : Int) := by omega
      rw [he, he', Int.toNat_natCast, zpow_neg, zpow_natCast, Nat.cast_pow, Nat.cast_ofNat]
    rw [hexp, ← div_eq_mul_inv]
    rfl

/-- Cutting off what is behind the point is rounding down. -/
theorem num_div_den (bits : Nat) :
    (fraction bits).num / (fraction bits).den = ⌊magnitude bits⌋₊ := by
  rw [← num_div_den_eq_magnitude, Nat.floor_div_eq_div]

theorem abs_value (x : Float) : |value x| = magnitude (magnitudeBits x) := by
  unfold value
  split
  · rw [abs_neg, abs_of_nonneg (magnitude_nonneg _)]
  · exact abs_of_nonneg (magnitude_nonneg _)

/-- Magnitudes are ordered by their exponents, and by their mantissas where these are the same. -/
theorem magnitude_le {b b' : Nat} (h : exponent b < exponent b'
    ∨ exponent b = exponent b' ∧ mantissa b ≤ mantissa b') : magnitude b ≤ magnitude b' := by
  unfold magnitude
  rcases h with h | ⟨h, h'⟩
  · -- only the least exponent goes without a leading one
    have hlow : 2 ^ 52 ≤ mantissa b' := by
      rw [exponent_eq b, exponent_eq b'] at h
      rw [mantissa_eq]
      split_ifs at h ⊢ <;> omega
    have hlt := mantissa_lt b
    have hstep : (2 : ℚ) ^ (exponent b + 1) ≤ 2 ^ exponent b' :=
      zpow_le_zpow_right₀ (by norm_num) (by omega)
    calc (mantissa b : ℚ) * 2 ^ exponent b
        ≤ 2 ^ 53 * 2 ^ exponent b := by
          gcongr
          exact_mod_cast hlt.le
      _ = 2 ^ 52 * 2 ^ (exponent b + 1) := by
          rw [zpow_add_one₀ (by norm_num)]
          ring
      _ ≤ mantissa b' * 2 ^ exponent b' := by
          gcongr
          exact_mod_cast hlow
  · rw [h]
    gcongr

/-! ## Comparing -/

theorem isFinite_iff {x : Float} : isFinite x = true ↔ bits x % 2 ^ 63 < infinityBits :=
  decide_eq_true_iff

/-- Where a number stands among the others: at zero, or by its sign, exponent and mantissa. -/
inductive Stands : Int × Int × Int → ℚ → Prop
  | zero : Stands (0, 0, 0) 0
  | positive (bits : Nat) (h : 0 < magnitude bits) :
      Stands (1, exponent bits, mantissa bits) (magnitude bits)
  | negative (bits : Nat) (h : 0 < magnitude bits) :
      Stands (-1, -exponent bits, -mantissa bits) (-magnitude bits)

theorem Stands.le {i j : Int × Int × Int} {q r : ℚ} (hi : Stands i q) (hj : Stands j r)
    (h : NotBehind i j) : q ≤ r := by
  unfold NotBehind at h
  cases hi with
  | zero =>
      cases hj with
      | zero => exact le_refl 0
      | positive bits hpos => exact hpos.le
      | negative bits hpos =>
          dsimp only at h
          omega
  | positive bits hpos =>
      cases hj with
      | zero =>
          dsimp only at h
          omega
      | positive bits' _ =>
          dsimp only at h
          exact magnitude_le (by omega)
      | negative bits' _ =>
          dsimp only at h
          omega
  | negative bits hpos =>
      cases hj with
      | zero => exact neg_nonpos.mpr hpos.le
      | positive bits' hpos' => exact (neg_nonpos.mpr hpos.le).trans hpos'.le
      | negative bits' _ =>
          dsimp only at h
          exact neg_le_neg (magnitude_le (by omega))

theorem exists_stands {x : Float} (h : isFinite x = true) :
    ∃ i, rank x.toModel.unpack = some i ∧ Stands i (value x) := by
  rw [isFinite_iff] at h
  have hmag : magnitudeBits x = bits x % 2 ^ 63 := rfl
  unfold value
  rw [hmag]
  have hmeans := means_bits x
  generalize x.toModel.unpack = u at hmeans
  cases hmeans with
  | notANumber h' => omega
  | infinity h' => omega
  | zero h' =>
      have hzero : magnitude (bits x % 2 ^ 63) = 0 := by
        rw [h', magnitude]
        exact zero_mul _
      refine ⟨(0, 0, 0), rfl, ?_⟩
      rw [hzero, neg_zero, ite_self]
      exact .zero
  | @finite m e hpos _ hm he =>
      subst hm he
      have hmagpos : 0 < magnitude (bits x % 2 ^ 63) := by
        unfold magnitude
        positivity
      unfold signOf
      by_cases hneg : bits x / 2 ^ 63 = 1
      · rw [if_pos hneg, if_pos (isNegative_iff.mpr hneg)]
        exact ⟨_, rfl, .negative _ hmagpos⟩
      · rw [if_neg hneg, if_neg (fun hc => hneg (isNegative_iff.mp hc))]
        exact ⟨_, rfl, .positive _ hmagpos⟩

/-- Finite doubles are compared by their values. -/
theorem value_le_of_le {x y : Float} (hx : isFinite x = true) (hy : isFinite y = true) (h : x ≤ y) :
    value x ≤ value y := by
  obtain ⟨i, hi, j, hj, hij⟩ := float_le_iff.mp h
  obtain ⟨i', hi', hstands⟩ := exists_stands hx
  obtain ⟨j', hj', hstands'⟩ := exists_stands hy
  obtain rfl := Option.mem_unique hi hi'
  obtain rfl := Option.mem_unique hj hj'
  exact hstands.le hstands' hij

/-- What comes before a finite double is finite, or below all others. -/
theorem isNegative_of_le {x y : Float} (hx : isFinite x = false) (hy : isFinite y = true)
    (h : x ≤ y) : isNaN x = false ∧ isNegative x = true := by
  obtain ⟨i, hi, j, hj, hij⟩ := float_le_iff.mp h
  obtain ⟨j', hj', hstands⟩ := exists_stands hy
  obtain rfl := Option.mem_unique hj hj'
  have hsmall : -1 ≤ j.1 ∧ j.1 ≤ 1 := by
    generalize value y = q at hstands
    cases hstands <;> dsimp only <;> omega
  have hmeans := means_bits x
  generalize x.toModel.unpack = u at hi hmeans
  have hinf : ¬ bits x % 2 ^ 63 < infinityBits := fun hc => by
    rw [isFinite_iff.mpr hc] at hx
    cases hx
  cases hmeans with
  | notANumber _ => cases hi
  | infinity h' =>
      refine ⟨decide_eq_false (by rw [show magnitudeBits x = _ from h']; exact lt_irrefl _), ?_⟩
      rw [isNegative_iff]
      by_contra hneg
      rw [signOf, if_neg hneg] at hi
      obtain rfl := Option.some.inj hi
      unfold NotBehind at hij
      dsimp only at hij
      omega
  | zero h' =>
      rw [h'] at hinf
      exact absurd (by decide) hinf
  | finite _ h' _ _ => exact absurd h' hinf

theorem truncate_of_isFinite {x : Float} (hx : isFinite x = true) :
    truncate x = signed (isNegative x) ⌊magnitude (magnitudeBits x)⌋₊ := by
  unfold truncate
  rw [if_pos hx]
  dsimp only
  rw [num_div_den]

theorem natAbs_truncate {x : Float} (hx : isFinite x = true) :
    (truncate x).natAbs = ⌊magnitude (magnitudeBits x)⌋₊ := by
  rw [truncate_of_isFinite hx]
  unfold signed
  split
  · exact Int.natAbs_neg _
  · rfl

/-- A double is whole if its value is. -/
theorem isWhole_iff {x : Float} (hx : isFinite x = true) : isWhole x = true ↔ ∃ n : Int, value x = n := by
  have hden : ((fraction (magnitudeBits x)).den : ℚ) ≠ 0 :=
    Nat.cast_ne_zero.mpr (den_pos (magnitudeBits x)).ne'
  have hwhole : isWhole x = true
      ↔ (fraction (magnitudeBits x)).den ∣ (fraction (magnitudeBits x)).num := by
    rw [isWhole, hx, Bool.true_and, beq_iff_eq, Nat.dvd_iff_mod_eq_zero]
  have hmagnitude := num_div_den_eq_magnitude (magnitudeBits x)
  rw [hwhole]
  constructor
  · intro hdvd
    obtain ⟨k, hk⟩ := hdvd
    have hvalue : magnitude (magnitudeBits x) = (k : Int) := by
      rw [← hmagnitude, hk, Nat.cast_mul, mul_div_cancel_left₀ _ hden, Int.cast_natCast]
    unfold value
    rw [hvalue]
    split
    · exact ⟨-k, (Int.cast_neg _).symm⟩
    · exact ⟨k, rfl⟩
  · intro hgiven
    obtain ⟨n, hn⟩ := hgiven
    -- the sign of the value makes no difference to what divides it
    have habs : magnitude (magnitudeBits x) = n.natAbs := by
      rw [← abs_value, hn, ← Int.cast_abs, Nat.cast_natAbs]
    refine ⟨n.natAbs, ?_⟩
    have hnum : ((fraction (magnitudeBits x)).num : ℚ)
        = (((fraction (magnitudeBits x)).den * n.natAbs : Nat) : ℚ) := by
      rw [Nat.cast_mul, ← habs, ← hmagnitude, mul_div_cancel₀ _ hden]
    exact_mod_cast hnum

/-- A double below a whole number is cut to one that is not above it. -/
theorem truncate_le {x : Float} (hx : isFinite x = true) {n : Int} (h : value x ≤ n) :
    truncate x ≤ n := by
  rw [truncate_of_isFinite hx]
  unfold value at h
  unfold signed
  have hfloor := Nat.floor_le (magnitude_nonneg (magnitudeBits x))
  split
  · next hneg =>
    rw [if_pos hneg] at h
    by_cases hn : 0 ≤ n
    · omega
    · -- a negative one is cut toward zero, but not beyond a whole number
      have hle : (n.natAbs : ℚ) ≤ magnitude (magnitudeBits x) := by
        have habs : (n.natAbs : ℚ) = -n := by
          rw [← Int.cast_natCast, Int.ofNat_natAbs_of_nonpos (by omega), Int.cast_neg]
        linarith
      have := Nat.le_floor hle
      omega
  · next hneg =>
    rw [if_neg hneg] at h
    have hle : ((⌊magnitude (magnitudeBits x)⌋₊ : Int) : ℚ) ≤ n := by
      exact_mod_cast hfloor.trans h
    exact_mod_cast hle

/-! ## Whole numbers -/

/-- A quotient at a power of two, what the division leaves, and what it divides by. -/
def quotientAt (num den : Nat) (e : Int) : Nat × Nat × Nat :=
  if 0 ≤ e then
    (num / (den * 2 ^ e.toNat), num % (den * 2 ^ e.toNat), den * 2 ^ e.toNat)
  else (num * 2 ^ (-e).toNat / den, num * 2 ^ (-e).toNat % den, den)

/-- A quotient rounded to the nearest whole number, a tie going to the even one. -/
def roundedQuotient (p : Nat × Nat × Nat) : Nat :=
  if 2 * p.2.1 > p.2.2 ∨ (2 * p.2.1 = p.2.2 ∧ p.1 % 2 = 1) then p.1 + 1 else p.1

/-- The bits of a mantissa at a power of two. -/
def bitsAt (e : Int) (q : Nat) : Nat :=
  if q < 2 ^ 52 then q else min ((e + 1075).toNat * 2 ^ 52 + (q - 2 ^ 52)) infinityBits

theorem nearestBits_eq (num den : Nat) : nearestBits num den =
    if num = 0 ∨ den = 0 then 0
    else
      let guess : Int := max ((num.log2 : Int) - (den.log2 : Int) - 53) (-1074)
      let e : Int := if (quotientAt num den guess).1 < 2 ^ 53 then guess else guess + 1
      bitsAt e (roundedQuotient (quotientAt num den e)) := rfl

theorem bitsAt_le (e : Int) (q : Nat) : bitsAt e q ≤ infinityBits := by
  unfold bitsAt
  split
  · rw [infinityBits_eq]
    omega
  · exact Nat.min_le_right _ _

theorem nearestBits_le (num den : Nat) : nearestBits num den ≤ infinityBits := by
  rw [nearestBits_eq]
  split
  · exact Nat.zero_le _
  · exact bitsAt_le _ _

/-- A whole number shifted until its first bit has a place. -/
theorem shifted_bounds {n k : Nat} (h0 : 0 < n) (hk : n.log2 ≤ k) :
    2 ^ k ≤ n * 2 ^ (k - n.log2) ∧ n * 2 ^ (k - n.log2) < 2 ^ (k + 1) := by
  have hlow : 2 ^ n.log2 ≤ n := Nat.log2_self_le h0.ne'
  have hhigh : n < 2 ^ (n.log2 + 1) := Nat.lt_log2_self
  have hpow : 2 ^ k = 2 ^ n.log2 * 2 ^ (k - n.log2) := by
    rw [← pow_add, Nat.add_sub_cancel' hk]
  have hpow' : 2 ^ (k + 1) = 2 ^ (n.log2 + 1) * 2 ^ (k - n.log2) := by
    rw [← pow_add, Nat.add_right_comm, Nat.add_sub_cancel' hk]
  rw [hpow, hpow']
  exact ⟨Nat.mul_le_mul_right _ hlow, Nat.mul_lt_mul_of_pos_right hhigh (by positivity)⟩

/-- A whole number of at most 53 bits is shifted until its first bit is the leading one. -/
theorem nearestBits_whole {n : Nat} (h0 : 0 < n) (h : n < 2 ^ 53) :
    nearestBits n 1 = (n.log2 + 1023) * 2 ^ 52 + (n * 2 ^ (52 - n.log2) - 2 ^ 52) := by
  have hlog : n.log2 < 53 := (Nat.log2_lt h0.ne').mpr h
  have hat {e : Int} (he : e ≤ 0) : quotientAt n 1 e = (n * 2 ^ (-e).toNat, 0, 1) := by
    unfold quotientAt
    split
    · obtain rfl : e = 0 := by omega
      simp [Nat.mod_one]
    · simp [Nat.mod_one]
  have hguess : max ((n.log2 : Int) - ((1 : Nat).log2 : Int) - 53) (-1074) = n.log2 - 53 := by
    have h1 : Nat.log2 1 = 0 := by decide
    rw [h1]
    omega
  rw [nearestBits_eq, if_neg (by omega)]
  dsimp only
  rw [hguess, hat (by omega)]
  -- the guess has one bit too many, so the power after it is taken
  have hlarge : ¬ n * 2 ^ (-((n.log2 : Int) - 53)).toNat < 2 ^ 53 := by
    have hexp : (-((n.log2 : Int) - 53)).toNat = 53 - n.log2 := by omega
    rw [hexp]
    exact Nat.not_lt.mpr (shifted_bounds h0 (by omega)).1
  rw [if_neg hlarge, hat (by omega)]
  have hexp : (-((n.log2 : Int) - 53 + 1)).toNat = 52 - n.log2 := by omega
  have hbounds := shifted_bounds h0 (show n.log2 ≤ 52 by omega)
  rw [hexp]
  generalize n * 2 ^ (52 - n.log2) = q at *
  have hq : roundedQuotient (q, 0, 1) = q := rfl
  rw [hq, bitsAt, if_neg (by omega)]
  have hmin : ((n.log2 : Int) - 53 + 1 + 1075).toNat = n.log2 + 1023 := by omega
  rw [hmin, infinityBits_eq]
  exact Nat.min_eq_left (by omega)

/-- Whole numbers of at most 53 bits are exact. -/
theorem magnitude_nearestBits {n : Nat} (h : n < 2 ^ 53) :
    nearestBits n 1 < infinityBits ∧ magnitude (nearestBits n 1) = n := by
  rcases Nat.eq_zero_or_pos n with rfl | h0
  · refine ⟨by decide, ?_⟩
    have hzero : nearestBits 0 1 = 0 := by decide
    rw [hzero, magnitude, Nat.cast_zero]
    exact zero_mul _
  · have hlog : n.log2 < 53 := (Nat.log2_lt h0.ne').mpr h
    have hbits := nearestBits_whole h0 h
    obtain ⟨hlow, hhigh⟩ := shifted_bounds h0 (show n.log2 ≤ 52 by omega)
    have hexp : exponent (nearestBits n 1) = n.log2 - 52 := by
      rw [exponent_eq, hbits]
      split <;> omega
    have hmantissa : mantissa (nearestBits n 1) = n * 2 ^ (52 - n.log2) := by
      rw [mantissa_eq, hbits]
      split <;> omega
    refine ⟨?_, ?_⟩
    · rw [hbits, infinityBits_eq]
      omega
    · have hshift : ((52 - n.log2 : Nat) : Int) + (n.log2 - 52) = 0 := by omega
      rw [magnitude, hexp, hmantissa, Nat.cast_mul, Nat.cast_pow, Nat.cast_ofNat, mul_assoc,
        ← zpow_natCast, ← zpow_add₀ (by norm_num), hshift, zpow_zero, mul_one]

theorem bits_ofInt (n : Int) :
    bits (ofInt n) = nearestBits n.natAbs 1 + if n < 0 then 2 ^ 63 else 0 := by
  have hle := nearestBits_le n.natAbs 1
  have hinf := infinityBits_eq
  have hfloat : ofInt n = Float.ofBits (UInt64.ofNat
      (nearestBits n.natAbs 1 + if n < 0 then 2 ^ 63 else 0)) := by
    unfold ofInt nearest
    by_cases hn : n < 0
    · rw [if_pos hn, decide_eq_true hn]
      rfl
    · rw [if_neg hn, decide_eq_false hn]
      rfl
  rw [hfloat]
  refine bits_ofBits ?_ ?_
  · split <;> omega
  · split <;> omega

theorem isNegative_ofInt (n : Int) : isNegative (ofInt n) = decide (n < 0) := by
  have hle := nearestBits_le n.natAbs 1
  have hinf := infinityBits_eq
  rw [Bool.eq_iff_iff, isNegative_iff, bits_ofInt, decide_eq_true_iff]
  split <;> omega

theorem isNegative_ofInt_mul (n : Nat) {x : Float} (hx : isNegative x = false) :
    isNegative (ofInt n * x) = false := by
  refine isNegative_mul ?_ hx
  rw [isNegative_ofInt]
  exact decide_eq_false (by omega)

theorem magnitudeBits_ofInt (n : Int) : magnitudeBits (ofInt n) = nearestBits n.natAbs 1 := by
  have hle := nearestBits_le n.natAbs 1
  have hinf := infinityBits_eq
  show bits (ofInt n) % 2 ^ 63 = _
  rw [bits_ofInt]
  split <;> omega

theorem isFinite_ofInt {n : Int} (h : n.natAbs < 2 ^ 53) : isFinite (ofInt n) = true := by
  unfold isFinite
  rw [magnitudeBits_ofInt]
  exact decide_eq_true (magnitude_nearestBits h).1

theorem value_ofInt {n : Int} (h : n.natAbs < 2 ^ 53) : value (ofInt n) = n := by
  unfold value
  rw [magnitudeBits_ofInt, (magnitude_nearestBits h).2, isNegative_ofInt, ← Int.cast_natCast]
  by_cases hn : n < 0
  · rw [if_pos (decide_eq_true hn), Int.ofNat_natAbs_of_nonpos hn.le, Int.cast_neg, neg_neg]
  · rw [if_neg (by simpa using hn), Int.natAbs_of_nonneg (by omega)]

/-- **What a double is cut to is not above a whole number that the double is not above.** -/
theorem clamp_le {x : Float} {n : Int} (hn : n.natAbs < 2 ^ 53) (h : x ≤ ofInt n) (lo hi : Int) :
    clamp lo hi x ≤ max lo n := by
  have hfinite := isFinite_ofInt hn
  unfold clamp
  cases hx : isFinite x with
  | true =>
      have hle := value_le_of_le hx hfinite h
      rw [value_ofInt hn] at hle
      have htruncate := truncate_le hx hle
      have hnan : isNaN x = false := by
        have hlt := isFinite_iff.mp hx
        exact decide_eq_false (Nat.not_lt.mpr hlt.le)
      rw [hnan]
      show max lo (min hi (truncate x)) ≤ max lo n
      omega
  | false =>
      obtain ⟨hnan, hneg⟩ := isNegative_of_le hx hfinite h
      rw [hnan, hneg]
      exact Int.le_max_left lo n

theorem clamp_nonneg {x : Float} (h : isNegative x = false) {lo hi : Int} (hhi : 0 ≤ hi) :
    0 ≤ clamp lo hi x := by
  unfold clamp
  split
  · exact le_refl 0
  · split
    · next hx =>
      have htruncate : 0 ≤ truncate x := by
        rw [truncate_of_isFinite hx, h]
        exact Int.natCast_nonneg _
      omega
    · rw [h]
      exact hhi

end Binary64

end Sheetwise
