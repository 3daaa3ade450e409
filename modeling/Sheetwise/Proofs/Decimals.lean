import Sheetwise.Proofs.Rounding
import Sheetwise.Text.Shortest

/-!
# Digits that read back

The digits that a double is written with are read as the same double. Two things have to be shown for it.
Some digits read back: a decimal of seventeen digits misses a double by a part in twice ten to the
sixteenth of it at most, which is less than half the way to the doubles next to it, so it is rounded to the
double that it was made from, and a search for fewer digits ends there at the latest. And digits read back
however they are written: a zero may move from the digits into the exponent, since what a decimal is
rounded to depends on its value alone.
-/

namespace Sheetwise

namespace Binary64

/-! ## What is near to a double -/

variable {num den bits : Nat}

/-- What is nearer to a whole number than a half is rounded to it. -/
theorem roundedQuotient_of_near {a b m : Nat} (hb : 0 < b) (h : |(a : ℚ) / b - m| < 1 / 2) :
    roundedQuotient (a / b, a % b, b) = m := by
  have hb' : (0 : ℚ) < b := by exact_mod_cast hb
  obtain ⟨hlow, hhigh⟩ := abs_lt.mp h
  have hbelow : 2 * m * b < 2 * a + b := by
    have hdiv : (m : ℚ) - 1 / 2 < a / b := by linarith
    rw [lt_div_iff₀ hb'] at hdiv
    have : (2 * m * b : ℚ) < 2 * a + b := by linarith
    exact_mod_cast this
  have habove : 2 * a < 2 * m * b + b := by
    have hdiv : (a : ℚ) / b < m + 1 / 2 := by linarith
    rw [div_lt_iff₀ hb'] at hdiv
    have : (2 * a : ℚ) < 2 * m * b + b := by linarith
    exact_mod_cast this
  have hsplit := Nat.div_add_mod a b
  have hrest := Nat.mod_lt a hb
  generalize a / b = q at *
  generalize a % b = r at *
  subst hsplit
  have hle : q ≤ m := by
    by_contra hgt
    have hstep : (m + 1) * b ≤ q * b := Nat.mul_le_mul_right b (by omega)
    nlinarith
  have hge : m ≤ q + 1 := by
    by_contra hgt
    have hstep : (q + 2) * b ≤ m * b := Nat.mul_le_mul_right b (by omega)
    nlinarith
  unfold roundedQuotient
  dsimp only
  rcases Nat.lt_or_eq_of_le hle with hlt | rfl
  · obtain rfl : m = q + 1 := by omega
    rw [if_pos (.inl (by nlinarith))]
  · rw [if_neg]
    rintro (hmore | ⟨hhalf, -⟩) <;> nlinarith

/-- The bits count the steps from zero: how often the power of two was doubled, and the mantissa. -/
theorem exponent_add_mantissa (bits : Nat) :
    (exponent bits + 1074).toNat * 2 ^ 52 + mantissa bits = bits := by
  rw [exponent_eq, mantissa_eq]
  split <;> omega

theorem mantissa_bounds (bits : Nat) :
    -1074 ≤ exponent bits ∧ (exponent bits = -1074 ∨ 2 ^ 52 ≤ mantissa bits) := by
  rw [exponent_eq, mantissa_eq]
  split <;> omega

theorem mantissa_pos (h : 0 < bits) : 0 < mantissa bits := by
  rw [mantissa_eq]
  split <;> omega

/-- A number differs from a magnitude by a part in `2 * 10 ^ 16` of it at most. -/
def Near (bits : Nat) (y : ℚ) : Prop := 2 * 10 ^ 16 * |y - magnitude bits| ≤ magnitude bits

/-- A number that is near, measured in the power of two of the magnitude, is nearer than a half. -/
theorem Near.abs_lt_half {y : ℚ} (h : Near bits y) :
    |y / 2 ^ exponent bits - mantissa bits| < 1 / 2
      ∧ (mantissa bits = 2 ^ 52 → |y / 2 ^ exponent bits - mantissa bits| < 1 / 4) := by
  have hpow : (0 : ℚ) < 2 ^ exponent bits := by positivity
  have hlt : (mantissa bits : ℚ) < 2 ^ 53 := by exact_mod_cast mantissa_lt bits
  have hdiff : y - magnitude bits = (y / 2 ^ exponent bits - mantissa bits) * 2 ^ exponent bits := by
    rw [magnitude]
    field_simp
  rw [Near, hdiff, abs_mul, abs_of_pos hpow, ← mul_assoc, magnitude] at h
  have hpart := le_of_mul_le_mul_right h hpow
  constructor
  · linarith
  · intro hfirst
    rw [hfirst] at hpart ⊢
    push_cast at hpart ⊢
    linarith

/--
A number that is near to a magnitude is measured in the same power of two, or in the one before if the
magnitude is the least that has its own.
-/
theorem exponentOf_of_near (hden : 0 < den) (hpos : 0 < bits) (h : Near bits ((num : ℚ) / den)) :
    0 < num ∧ (exponentOf num den = exponent bits
      ∨ exponentOf num den = exponent bits - 1 ∧ mantissa bits = 2 ^ 52) := by
  obtain ⟨hleast, hlead⟩ := mantissa_bounds bits
  obtain ⟨hlow, hhigh⟩ := abs_lt.mp h.abs_lt_half.1
  have hm : (1 : ℚ) ≤ mantissa bits := by exact_mod_cast mantissa_pos hpos
  have hmlt : (mantissa bits : ℚ) + 1 ≤ 2 ^ 53 := by exact_mod_cast mantissa_lt bits
  have hpow : (0 : ℚ) < 2 ^ exponent bits := by positivity
  generalize mantissa bits = m at *
  generalize exponent bits = e at *
  have hvalue : (num : ℚ) / den = num / den / 2 ^ e * 2 ^ e := by field_simp
  generalize hy : (num : ℚ) / den / 2 ^ e = y at *
  have hnum : 0 < num := by
    rcases Nat.eq_zero_or_pos num with rfl | hnum
    · rw [Nat.cast_zero, zero_div, zero_div] at hy
      linarith
    · exact hnum
  refine ⟨hnum, ?_⟩
  obtain ⟨hleast', hbelow, habove⟩ := exponentOf_bounds hnum hden
  generalize exponentOf num den = e' at *
  rw [hvalue] at hbelow habove
  have hmono {i j : Int} (h : (2 : ℚ) ^ i < 2 ^ j) : i < j :=
    (zpow_lt_zpow_iff_right₀ (by norm_num)).mp h
  have hshift (k : Nat) : (2 : ℚ) ^ (e + k) = 2 ^ k * 2 ^ e := by
    rw [zpow_add₀ (by norm_num), zpow_natCast, mul_comm]
  have hle : e' ≤ e := by
    rcases habove with heq | habove
    · omega
    · have hlt : (2 : ℚ) ^ (e' + 52) < 2 ^ (e + 53) :=
        calc (2 : ℚ) ^ (e' + 52) ≤ y * 2 ^ e := habove
          _ < 2 ^ 53 * 2 ^ e := by
            gcongr
            linarith
          _ = 2 ^ (e + 53) := (hshift 53).symm
      have := hmono hlt
      omega
  rcases hle.lt_or_eq with hlt | heq
  · -- a lower power is only the least one if there is none below, so the mantissa has its leading one
    have hlead := hlead.resolve_left (by omega)
    have hlead' : (2 ^ 52 : ℚ) ≤ m := by exact_mod_cast hlead
    have hbefore : e - 1 ≤ e' := by
      have hlt : (2 : ℚ) ^ (e + 51) < 2 ^ (e' + 53) :=
        calc (2 : ℚ) ^ (e + 51) = 2 ^ 51 * 2 ^ e := hshift 51
          _ < y * 2 ^ e := by
            gcongr
            linarith
          _ < 2 ^ (e' + 53) := hbelow
      have := hmono hlt
      omega
    have hfirst : m ≤ 2 ^ 52 := by
      have hend : y * 2 ^ e < 2 ^ 52 * 2 ^ e :=
        calc y * 2 ^ e < 2 ^ (e' + 53) := hbelow
          _ = 2 ^ (e + 52) := by
            congr 1
            omega
          _ = 2 ^ 52 * 2 ^ e := hshift 52
      have hylt : y < 2 ^ 52 := lt_of_mul_lt_mul_right hend hpow.le
      have : (m : ℚ) < 2 ^ 52 + 1 := by linarith
      have : m < 2 ^ 52 + 1 := by exact_mod_cast this
      omega
    exact .inr ⟨by omega, by omega⟩
  · exact .inl heq

/--
**What is near to a double is rounded to it.** The doubles next to it are farther away than twice that,
also the one before it if it is a power of two, where doubles are twice as dense.
-/
theorem nearestBits_of_near (hden : 0 < den) (hpos : 0 < bits) (hfinite : bits < infinityBits)
    (h : Near bits ((num : ℚ) / den)) : nearestBits num den = bits := by
  obtain ⟨hnum, hexp⟩ := exponentOf_of_near hden hpos h
  obtain ⟨hhalf, hquarter⟩ := h.abs_lt_half
  obtain ⟨a, b, hb, hquotient, hvalue⟩ := exists_quotientAt num hden (exponentOf num den)
  have hcount := exponent_add_mantissa bits
  have hleast := (exponentOf_bounds hnum hden).1
  rw [nearestBits_eq_min hnum hden, hquotient]
  rcases hexp with hsame | ⟨hbefore, hfirst⟩
  · rw [hsame] at hvalue ⊢
    rw [← hvalue] at hhalf
    rw [roundedQuotient_of_near hb hhalf, hcount]
    exact Nat.min_eq_left hfinite.le
  · have hquarter := hquarter hfirst
    rw [hbefore, zpow_sub_one₀ (by norm_num)] at hvalue
    -- in the power before, the mantissa is twice as large, and so is the difference
    have hdouble : |(a : ℚ) / b - (2 ^ 53 : Nat)| < 1 / 2 := by
      have hscale : (a : ℚ) / b - (2 ^ 53 : Nat)
          = 2 * (num / den / 2 ^ exponent bits - mantissa bits) := by
        rw [hvalue, hfirst]
        field_simp
        push_cast
        ring
      rw [hscale, abs_mul, abs_two]
      linarith
    rw [roundedQuotient_of_near hb hdouble, hbefore]
    rw [hbefore] at hleast
    have hstep : (exponent bits + 1074).toNat = (exponent bits - 1 + 1074).toNat + 1 := by
      clear hfinite
      omega
    rw [hfirst, hstep] at hcount
    have hcount' : (exponent bits - 1 + 1074).toNat * 2 ^ 52 + 2 ^ 53 = bits := by linarith
    rw [hcount']
    exact Nat.min_eq_left hfinite.le

/-- The least and the greatest of the finite magnitudes. -/
theorem magnitude_bounds (hpos : 0 < bits) (hfinite : bits < infinityBits) :
    (2 : ℚ) ^ (-1074 : Int) ≤ magnitude bits ∧ magnitude bits < 2 ^ (1024 : Int) := by
  have hm : (1 : ℚ) ≤ mantissa bits := by exact_mod_cast mantissa_pos hpos
  have hlt : (mantissa bits : ℚ) < 2 ^ 53 := by exact_mod_cast mantissa_lt bits
  have hexp : exponent bits ≤ 971 := by
    rw [infinityBits_eq] at hfinite
    rw [exponent_eq]
    split <;> omega
  have hlow : (2 : ℚ) ^ (-1074 : Int) ≤ 2 ^ exponent bits :=
    zpow_le_zpow_right₀ (by norm_num) (mantissa_bounds bits).1
  have hhigh : (2 : ℚ) ^ exponent bits ≤ 2 ^ (971 : Int) := zpow_le_zpow_right₀ (by norm_num) hexp
  have hleast : (0 : ℚ) < 2 ^ (-1074 : Int) := by positivity
  have hgreatest : (2 : ℚ) ^ (1024 : Int) = 2 ^ 53 * 2 ^ (971 : Int) := by
    rw [show (1024 : Int) = (53 : Nat) + 971 from rfl, zpow_add₀ (by norm_num), zpow_natCast]
  unfold magnitude
  constructor
  · nlinarith
  · calc (mantissa bits : ℚ) * 2 ^ exponent bits
        < 2 ^ 53 * 2 ^ exponent bits := by gcongr
      _ ≤ 2 ^ 53 * 2 ^ (971 : Int) := by gcongr
      _ = 2 ^ (1024 : Int) := hgreatest.symm

/-- Rounding depends on the quotient alone. -/
theorem nearestBits_congr {num' den' : Nat} (hden : 0 < den) (hden' : 0 < den')
    (h : (num : ℚ) / den = num' / den') : nearestBits num den = nearestBits num' den' :=
  Nat.le_antisymm (nearestBits_mono hden hden' h.le) (nearestBits_mono hden' hden h.ge)

end Binary64

namespace Text

variable {d d' bits : Nat} {e e' : Int} {x : Fraction}

/-! ## Decimals -/

theorem zpow_ten_of_nonneg (h : 0 ≤ e) : (10 : ℚ) ^ e = (10 ^ e.toNat : Nat) := by
  obtain ⟨k, rfl⟩ := Int.eq_ofNat_of_zero_le h
  rw [Int.toNat_natCast, zpow_natCast, Nat.cast_pow, Nat.cast_ofNat]

theorem zpow_ten_of_neg (h : ¬ 0 ≤ e) : (10 : ℚ) ^ e = ((10 ^ (-e).toNat : Nat) : ℚ)⁻¹ := by
  rw [← zpow_ten_of_nonneg (show 0 ≤ -e by omega), zpow_neg, inv_inv]

/-- A decimal is a quotient of natural numbers. -/
theorem exists_decimalBits (d : Nat) (e : Int) : ∃ num den : Nat, 0 < den
    ∧ decimalBits d e = Binary64.nearestBits num den ∧ (num : ℚ) / den = d * 10 ^ e := by
  unfold decimalBits
  by_cases he : 0 ≤ e
  · rw [if_pos he]
    refine ⟨_, 1, Nat.one_pos, rfl, ?_⟩
    rw [zpow_ten_of_nonneg he, Nat.cast_one, div_one, Nat.cast_mul]
    rfl
  · rw [if_neg he]
    refine ⟨d, _, Nat.pow_pos (by decide), rfl, ?_⟩
    rw [zpow_ten_of_neg he]
    exact div_eq_mul_inv _ _

/-- What a decimal reads back as depends on its value alone. -/
theorem decimalBits_congr (h : (d : ℚ) * 10 ^ e = d' * 10 ^ e') : decimalBits d e = decimalBits d' e' := by
  obtain ⟨num, den, hden, hbits, hvalue⟩ := exists_decimalBits d e
  obtain ⟨num', den', hden', hbits', hvalue'⟩ := exists_decimalBits d' e'
  rw [hbits, hbits', Binary64.nearestBits_congr hden hden' (by rw [hvalue, hvalue', h])]

theorem decimalBits_mono (h : (d : ℚ) * 10 ^ e ≤ d' * 10 ^ e') : decimalBits d e ≤ decimalBits d' e' := by
  obtain ⟨num, den, hden, hbits, hvalue⟩ := exists_decimalBits d e
  obtain ⟨num', den', hden', hbits', hvalue'⟩ := exists_decimalBits d' e'
  rw [hbits, hbits']
  exact Binary64.nearestBits_mono hden hden' (by rwa [hvalue, hvalue'])

theorem decimalBits_of_near (hpos : 0 < bits) (hfinite : bits < Binary64.infinityBits)
    (h : Binary64.Near bits (d * 10 ^ e)) : decimalBits d e = bits := by
  obtain ⟨num, den, hden, hbits, hvalue⟩ := exists_decimalBits d e
  rw [hbits]
  exact Binary64.nearestBits_of_near hden hpos hfinite (by rwa [hvalue])

/-- Zeros moved into the exponent do not change the value. -/
theorem dropZeros_value (fuel d : Nat) (e : Int) :
    ((dropZeros fuel d e).1 : ℚ) * 10 ^ (dropZeros fuel d e).2 = d * 10 ^ e := by
  induction fuel generalizing d e with
  | zero => rfl
  | succ fuel ih =>
      unfold dropZeros
      split
      · next hzero =>
        have htens : d = 10 * (d / 10) := (Nat.mul_div_cancel' (Nat.dvd_of_mod_eq_zero hzero.2)).symm
        have hcast : (d : ℚ) = 10 * (d / 10 : Nat) := by exact_mod_cast htens
        rw [ih, hcast, zpow_add_one₀ (by norm_num)]
        ring
      · rfl

/-! ## The search -/

theorem scale_value (hden : 0 < x.den) (e : Int) :
    0 < (scale x e).den ∧ (scale x e).value = x.value / 10 ^ e := by
  unfold scale Fraction.value
  split
  · next he =>
    refine ⟨Nat.mul_pos hden (Nat.pow_pos (by decide)), ?_⟩
    rw [zpow_ten_of_nonneg he, div_div, Nat.cast_mul]
    rfl
  · next he =>
    refine ⟨hden, ?_⟩
    rw [zpow_ten_of_neg he, div_inv_eq_mul, div_mul_eq_mul_div, Nat.cast_mul]
    rfl

/-- What the search finds reads back. -/
theorem decimalBits_of_readingBack? (h : readingBack? bits x e = some d) : decimalBits d e = bits := by
  unfold readingBack? at h
  dsimp only at h
  generalize (if (scale x e).den ≤ _ then _ else _) = first at h
  generalize (if first = _ then _ else _) = second at h
  split_ifs at h with hfirst hsecond
  · rw [← Option.some.inj h]
    exact hfirst
  · rw [← Option.some.inj h]
    exact hsecond.2

/-- The nearer of the two neighbours of a quotient is at most a half away. -/
theorem abs_nearer_sub_le {a b : Nat} (hb : 0 < b) :
    |((if b ≤ 2 * (a % b) then a / b + 1 else a / b : Nat) : ℚ) - a / b| ≤ 1 / 2 := by
  have hb' : (0 : ℚ) < b := by exact_mod_cast hb
  have hsplit : (b : ℚ) * (a / b : Nat) + (a % b : Nat) = a := by exact_mod_cast Nat.div_add_mod a b
  have hvalue : (a : ℚ) / b = (a / b : Nat) + (a % b : Nat) / b :=
    calc (a : ℚ) / b = (b * (a / b : Nat) + (a % b : Nat)) / b := by rw [hsplit]
      _ = (a / b : Nat) + (a % b : Nat) / b := by rw [add_div, mul_div_cancel_left₀ _ hb'.ne']
  have hrest : (a % b : Nat) < (b : ℚ) := by exact_mod_cast Nat.mod_lt a hb
  have hpart : 0 ≤ ((a % b : Nat) : ℚ) / b := by positivity
  have hpart' : ((a % b : Nat) : ℚ) / b < 1 := by rwa [div_lt_one hb']
  rw [hvalue]
  split
  · next hup =>
    have hhalf : 1 / 2 ≤ ((a % b : Nat) : ℚ) / b := by
      rw [le_div_iff₀ hb']
      have : (b : ℚ) ≤ 2 * (a % b : Nat) := by exact_mod_cast hup
      linarith
    rw [abs_le]
    push_cast
    constructor <;> linarith
  · next hdown =>
    have hhalf : ((a % b : Nat) : ℚ) / b < 1 / 2 := by
      rw [div_lt_iff₀ hb']
      have : 2 * (a % b : Nat) < (b : ℚ) := by exact_mod_cast Nat.not_le.mp hdown
      linarith
    rw [abs_le]
    constructor <;> linarith

/-- A grid of which every multiple that is nearest to a double is near to it has one that reads back. -/
theorem isSome_readingBack? (hpos : 0 < bits) (hfinite : bits < Binary64.infinityBits)
    (h : 10 ^ 16 * (10 : ℚ) ^ e ≤ Binary64.magnitude bits) :
    (readingBack? bits (Binary64.fraction bits) e).isSome = true := by
  have hpow : (0 : ℚ) < 10 ^ e := by positivity
  obtain ⟨hden, hvalue⟩ := scale_value (Binary64.den_pos bits) e
  have hmagnitude : (Binary64.fraction bits).value = Binary64.magnitude bits :=
    Binary64.num_div_den_eq_magnitude bits
  rw [hmagnitude, Fraction.value] at hvalue
  unfold readingBack?
  dsimp only
  generalize scale (Binary64.fraction bits) e = s at *
  have hnearer := abs_nearer_sub_le (a := s.num) hden
  rw [hvalue] at hnearer
  generalize (if s.den ≤ 2 * (s.num % s.den) then s.num / s.den + 1 else s.num / s.den) = first at *
  have hnear : Binary64.Near bits (first * 10 ^ e) := by
    have hdiff : first * 10 ^ e - Binary64.magnitude bits
        = (first - Binary64.magnitude bits / 10 ^ e) * 10 ^ e := by field_simp
    rw [Binary64.Near, hdiff, abs_mul, abs_of_pos hpow]
    nlinarith
  rw [if_pos (decimalBits_of_near hpos hfinite hnear)]
  rfl

/-- Powers of ten and of two: ten is less than three and a third bits, and more than 93 of 28 parts. -/
theorem zpow_ten_le_zpow_two {k j : Int} (h : 10 * k ≤ 3 * j) (h' : 93 * k ≤ 28 * j) :
    (10 : ℚ) ^ k ≤ 2 ^ j := by
  by_cases hk : 0 ≤ k
  · obtain ⟨n, rfl⟩ := Int.eq_ofNat_of_zero_le hk
    obtain ⟨i, rfl⟩ := Int.eq_ofNat_of_zero_le (show 0 ≤ j by omega)
    rw [zpow_natCast, zpow_natCast]
    refine (pow_le_pow_iff_left₀ (by positivity) (by positivity) three_ne_zero).mp ?_
    calc ((10 : ℚ) ^ n) ^ 3 = (10 ^ 3) ^ n := pow_right_comm ..
      _ ≤ (2 ^ 10) ^ n := pow_le_pow_left₀ (by norm_num) (by norm_num) n
      _ = 2 ^ (10 * n) := (pow_mul ..).symm
      _ ≤ 2 ^ (i * 3) := pow_le_pow_right₀ (by norm_num) (by omega)
      _ = (2 ^ i) ^ 3 := pow_mul ..
  · by_cases hj : 0 ≤ j
    · exact (zpow_le_one_of_nonpos₀ (by norm_num) (by omega)).trans (one_le_zpow₀ (by norm_num) hj)
    · obtain ⟨n, hn⟩ := Int.eq_ofNat_of_zero_le (show 0 ≤ -k by omega)
      obtain ⟨i, hi⟩ := Int.eq_ofNat_of_zero_le (show 0 ≤ -j by omega)
      obtain rfl : k = -(n : Int) := by omega
      obtain rfl : j = -(i : Int) := by omega
      rw [zpow_neg, zpow_neg, zpow_natCast, zpow_natCast]
      refine inv_anti₀ (by positivity) ?_
      refine (pow_le_pow_iff_left₀ (by positivity) (by positivity) (show 93 ≠ 0 by decide)).mp ?_
      calc ((2 : ℚ) ^ i) ^ 93 = (2 ^ 93) ^ i := pow_right_comm ..
        _ ≤ (10 ^ 28) ^ i := pow_le_pow_left₀ (by norm_num) (by norm_num) i
        _ = 10 ^ (28 * i) := (pow_mul ..).symm
        _ ≤ 10 ^ (n * 93) := pow_le_pow_right₀ (by norm_num) (by omega)
        _ = (10 ^ n) ^ 93 := pow_mul ..

/-- The search for a power of ten ends at one that is not too large, if it is not begun too high. -/
theorem zpow_magnitude_le (hden : 0 < x.den) (fuel : Nat) (h : (10 : ℚ) ^ (e - fuel) ≤ x.value) :
    (10 : ℚ) ^ magnitude x fuel e ≤ x.value := by
  induction fuel generalizing e with
  | zero => rwa [Nat.cast_zero, sub_zero] at h
  | succ fuel ih =>
      unfold magnitude
      dsimp only
      split
      · next hle =>
        obtain ⟨hscaled, hvalue⟩ := scale_value hden e
        have hpow : (0 : ℚ) < 10 ^ e := by positivity
        have hone : 1 ≤ (scale x e).value := by
          rw [Fraction.value, one_le_div (by exact_mod_cast hscaled)]
          exact_mod_cast hle
        rwa [hvalue, one_le_div hpow] at hone
      · refine ih ?_
        rwa [show e - 1 - (fuel : Int) = e - (fuel + 1 : Nat) by push_cast; ring]

/-- The first guess is no more than eight powers of ten too high. -/
theorem zpow_guess_le (hpos : 0 < bits) (hfinite : bits < Binary64.infinityBits) :
    (10 : ℚ) ^ ((((Binary64.fraction bits).num.log2 : Int) - ((Binary64.fraction bits).den.log2 : Int) + 1)
      * 30104 / 100000 + 1 - (8 : Nat)) ≤ Binary64.magnitude bits := by
  have hvalue := Binary64.num_div_den_eq_magnitude bits
  have hden := Binary64.den_pos bits
  obtain ⟨hleast, hgreatest⟩ := Binary64.magnitude_bounds hpos hfinite
  have hnum : 0 < (Binary64.fraction bits).num := by
    rcases Nat.eq_zero_or_pos (Binary64.fraction bits).num with hzero | hnum
    · rw [hzero, Nat.cast_zero, zero_div] at hvalue
      rw [← hvalue] at hleast
      exact absurd hleast (not_le.mpr (by positivity))
    · exact hnum
  obtain ⟨hlow, hhigh⟩ := Binary64.log2_bounds hnum hden
  rw [hvalue] at hlow hhigh
  generalize ((Binary64.fraction bits).num.log2 : Int) - ((Binary64.fraction bits).den.log2 : Int) = l at *
  have hmono {i j : Int} (h : (2 : ℚ) ^ i < 2 ^ j) : i < j :=
    (zpow_lt_zpow_iff_right₀ (by norm_num)).mp h
  have hl : -1076 < l := by
    have := hmono (hleast.trans_lt hhigh)
    omega
  have hl' : l < 1026 := by
    have := hmono (hlow.trans_lt hgreatest)
    omega
  exact (zpow_ten_le_zpow_two (by omega) (by omega)).trans hlow

/--
**Some digits read back.** Seventeen digits are enough to name a double, so the search for fewer ends there
at the latest.
-/
theorem decimalBits_shortestDigits (hpos : 0 < bits) (hfinite : bits < Binary64.infinityBits) :
    decimalBits (shortestDigits bits).1 (shortestDigits bits).2 = bits := by
  have hmagnitude : (Binary64.fraction bits).value = Binary64.magnitude bits :=
    Binary64.num_div_den_eq_magnitude bits
  have hguess := zpow_guess_le hpos hfinite
  rw [← hmagnitude] at hguess
  have hten := zpow_magnitude_le (Binary64.den_pos bits) 8 hguess
  unfold shortestDigits
  dsimp only
  generalize magnitude (Binary64.fraction bits) 8 _ = e at *
  have hlast : 10 ^ 16 * (10 : ℚ) ^ (e - (16 : Nat)) ≤ Binary64.magnitude bits := by
    rw [zpow_sub₀ (by norm_num), zpow_natCast, mul_div_cancel₀ _ (by norm_num), ← hmagnitude]
    exact hten
  obtain ⟨d, hd⟩ := Option.isSome_iff_exists.mp (isSome_readingBack? hpos hfinite hlast)
  split
  · next found hfound =>
    obtain ⟨g, hg, hback⟩ := List.exists_of_findSome?_eq_some hfound
    obtain ⟨d', hd', rfl⟩ := Option.map_eq_some_iff.mp hback
    exact decimalBits_of_readingBack? hd'
  · next hnone =>
    rw [List.findSome?_eq_none_iff] at hnone
    have hmem : e - (16 : Nat) ∈ (List.range 17).map fun (n : Nat) => e - (n : Int) :=
      List.mem_map.mpr ⟨16, by decide, rfl⟩
    have := hnone _ hmem
    rw [hd] at this
    cases this

/-! ## Reading -/

theorem decimalBits_le (d : Nat) (e : Int) : decimalBits d e ≤ Binary64.infinityBits := by
  obtain ⟨num, den, -, hbits, -⟩ := exists_decimalBits d e
  rw [hbits]
  exact Binary64.nearestBits_le num den

/-- A decimal far behind the point reads back as zero. -/
theorem decimalBits_of_small (h : d = 0 ∨ e + (d.log2 / 3 : Nat) < -400) : decimalBits d e = 0 := by
  have hleast : decimalBits 1 (-400) = 0 := by decide +kernel
  refine Nat.le_zero.mp (hleast ▸ decimalBits_mono ?_)
  rw [Nat.cast_one, one_mul]
  rcases h with rfl | h
  · rw [Nat.cast_zero, zero_mul]
    positivity
  · have hd : d ≤ 10 ^ (d.log2 / 3 + 1) :=
      calc d ≤ 2 ^ (d.log2 + 1) := Nat.lt_log2_self.le
        _ ≤ 2 ^ (3 * (d.log2 / 3 + 1)) := Nat.pow_le_pow_right (by decide) (by omega)
        _ = 8 ^ (d.log2 / 3 + 1) := by rw [Nat.pow_mul]
        _ ≤ 10 ^ (d.log2 / 3 + 1) := Nat.pow_le_pow_left (by decide) _
    calc (d : ℚ) * 10 ^ e ≤ (10 ^ (d.log2 / 3 + 1) : Nat) * 10 ^ e := by
          gcongr
      _ = 10 ^ ((d.log2 / 3 + 1 : Nat) + e) := by
          rw [Nat.cast_pow, Nat.cast_ofNat, ← zpow_natCast, ← zpow_add₀ (by norm_num)]
      _ ≤ 10 ^ (-400 : Int) := zpow_le_zpow_right₀ (by norm_num) (by push_cast; omega)

/-- A decimal with its first digit far before the point reads back as infinity. -/
theorem decimalBits_of_large (hd : d ≠ 0) (h : 400 < e + (d.log2 / 4 : Nat)) :
    decimalBits d e = Binary64.infinityBits := by
  have hgreatest : decimalBits 1 400 = Binary64.infinityBits := by decide +kernel
  refine Nat.le_antisymm (decimalBits_le d e) (hgreatest ▸ decimalBits_mono ?_)
  rw [Nat.cast_one, one_mul]
  have hlow : 10 ^ (d.log2 / 4) ≤ d :=
    calc 10 ^ (d.log2 / 4) ≤ 16 ^ (d.log2 / 4) := Nat.pow_le_pow_left (by decide) _
      _ = 2 ^ (4 * (d.log2 / 4)) := by rw [Nat.pow_mul]
      _ ≤ 2 ^ d.log2 := Nat.pow_le_pow_right (by decide) (by omega)
      _ ≤ d := Nat.log2_self_le hd
  calc (10 : ℚ) ^ (400 : Int) ≤ 10 ^ ((d.log2 / 4 : Nat) + e) :=
        zpow_le_zpow_right₀ (by norm_num) (by omega)
    _ = (10 ^ (d.log2 / 4) : Nat) * 10 ^ e := by
        rw [Nat.cast_pow, Nat.cast_ofNat, ← zpow_natCast, ← zpow_add₀ (by norm_num)]
    _ ≤ d * 10 ^ e := by gcongr

/-- **A decimal is read as the double nearest to it**, also where its size alone decides which that is. -/
theorem nearestDecimal_eq (negative : Bool) (d : Nat) (e : Int) : nearestDecimal negative d e
    = Float.ofBits (UInt64.ofNat (if negative then decimalBits d e + 2 ^ 63 else decimalBits d e)) := by
  unfold nearestDecimal
  split
  · next hsmall =>
    rw [decimalBits_of_small hsmall]
    rfl
  · next hsmall =>
    rw [not_or] at hsmall
    split
    · next hlarge =>
      have hgreatest : Binary64.nearestBits (Nat.pow 10 400) 1 = Binary64.infinityBits := by decide +kernel
      rw [decimalBits_of_large hsmall.1 hlarge, Binary64.nearest, hgreatest]
      rfl
    · unfold decimalBits
      split <;> rfl

end Text

namespace Binary64

/-- A double is its sign and its magnitude. -/
theorem ofBits_magnitudeBits (x : Float) : Float.ofBits (UInt64.ofNat
    (if isNegative x then magnitudeBits x + 2 ^ 63 else magnitudeBits x)) = x := by
  have hlt : bits x < 2 ^ 64 := x.toBits.toBitVec.isLt
  have hmagnitude : magnitudeBits x = bits x % 2 ^ 63 := rfl
  have hbits : (if isNegative x then magnitudeBits x + 2 ^ 63 else magnitudeBits x) = bits x := by
    rw [hmagnitude]
    split
    · next h =>
      rw [isNegative_iff] at h
      omega
    · next h =>
      rw [isNegative_iff] at h
      omega
  rw [hbits, bits, UInt64.ofNat_toNat, Float.ofBits_toBits]

end Binary64

namespace Text

variable {d : Nat} {e : Int}

/-- Digits that read back as the magnitude of a double are read as the double if its sign is. -/
theorem nearestDecimal_of_decimalBits {x : Float} (h : decimalBits d e = Binary64.magnitudeBits x) :
    nearestDecimal (Binary64.isNegative x) d e = x := by
  rw [nearestDecimal_eq, h, Binary64.ofBits_magnitudeBits]

end Text

end Sheetwise
