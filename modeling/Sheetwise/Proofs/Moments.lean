import Mathlib.Algebra.Order.Floor.Semifield
import Mathlib.Data.Rat.Floor
import Sheetwise.Proofs.Rounding
import Sheetwise.Proofs.SerialDates

/-!
# Points in time in the order of their serial dates

A serial date is two numbers, the days and the seconds of the time of day, and each of them comes out of
a step that keeps the order: the days are a whole part, and among serial dates of one day the seconds are
rounded from what is left of it. The seconds may round up to a whole day, which is midnight of the next
one and so not later than anything that the next day holds. Hence the order is kept from one day to the next
as long as the next number is the next day.

There is one number that is not. The number 60 stands for the day that never was, and it falls on the day
of the number 59, so that the times of day alone decide between the two.
-/

namespace Sheetwise

/-! ## Rounding -/

namespace SerialDate

variable {f g : Fraction} {precision : Precision}

theorem roundHalfUp_eq_floor (h : 0 < f.den) : roundHalfUp f = ⌊f.value + 1 / 2⌋₊ := by
  have hden : (f.den : ℚ) ≠ 0 := Nat.cast_ne_zero.mpr h.ne'
  have hvalue : f.value + 1 / 2 = ((2 * f.num + f.den : Nat) : ℚ) / ((2 * f.den : Nat) : ℚ) := by
    unfold Fraction.value
    push_cast
    field_simp
  rw [hvalue, Nat.floor_div_eq_div, roundHalfUp]

theorem roundHalfUp_mono (hf : 0 < f.den) (hg : 0 < g.den) (h : f.value ≤ g.value) :
    roundHalfUp f ≤ roundHalfUp g := by
  rw [roundHalfUp_eq_floor hf, roundHalfUp_eq_floor hg]
  exact Nat.floor_mono (add_le_add_left h _)

/-- A whole number is rounded to itself. -/
theorem roundHalfUp_of_value {n : Nat} (hf : 0 < f.den) (h : f.value = n) : roundHalfUp f = n := by
  rw [roundHalfUp_eq_floor hf, h, Nat.floor_eq_iff (by positivity)]
  constructor <;> linarith

theorem quotient_den_pos (precision : Precision) (num : Nat) {den : Nat} (h : 0 < den) :
    0 < (precision.quotient num den).den := by
  cases precision with
  | double => exact Binary64.den_pos _
  | exact => exact h

/-- A quotient of doubles is the double that is nearest to it. -/
theorem value_quotient_double (num den : Nat) :
    (Precision.double.quotient num den).value = Binary64.magnitude (Binary64.nearestBits num den) :=
  Binary64.num_div_den_eq_magnitude _

theorem quotient_mono (precision : Precision) {num den num' den' : Nat} (hden : 0 < den)
    (hden' : 0 < den') (h : (num : ℚ) / den ≤ num' / den') :
    (precision.quotient num den).value ≤ (precision.quotient num' den').value := by
  cases precision with
  | double =>
      rw [value_quotient_double, value_quotient_double]
      exact Binary64.magnitude_mono (Binary64.nearestBits_mono hden hden' h)
  | exact => exact h

/-- A whole number of at most 53 bits is its own quotient by one. -/
theorem value_quotient_one (precision : Precision) {n : Nat} (h : n < 2 ^ 53) :
    (precision.quotient n 1).value = n := by
  cases precision with
  | double =>
      rw [value_quotient_double]
      exact (Binary64.magnitude_nearestBits h).2
  | exact =>
      show (n : ℚ) / (1 : Nat) = n
      rw [Nat.cast_one, div_one]

/-! ## Days and seconds -/

/-- The greater the number, the more whole days. -/
theorem days_mono (h : f.value ≤ g.value) :
    (ofFraction f precision).days ≤ (ofFraction g precision).days := by
  have hle := Nat.floor_mono h
  unfold Fraction.value at hle
  rwa [Nat.floor_div_eq_div, Nat.floor_div_eq_div] at hle

/-- What the whole days leave. -/
theorem rest_eq (hf : 0 < f.den) :
    ((f.num % f.den * daySeconds : Nat) : ℚ) / f.den = (f.value - (f.num / f.den : Nat)) * daySeconds := by
  have hden : (f.den : ℚ) ≠ 0 := Nat.cast_ne_zero.mpr hf.ne'
  have hsplit : (f.num : ℚ) = f.den * (f.num / f.den : Nat) + (f.num % f.den : Nat) := by
    exact_mod_cast (Nat.div_add_mod f.num f.den).symm
  have hvalue : f.value = (f.num / f.den : Nat) + ((f.num % f.den : Nat) : ℚ) / f.den := by
    rw [Fraction.value, hsplit, add_div, mul_div_cancel_left₀ _ hden]
  rw [hvalue, add_sub_cancel_left, Nat.cast_mul, div_mul_eq_mul_div]

/-- Among serial dates of one day the seconds are in the order of the numbers. -/
theorem seconds_mono (hf : 0 < f.den) (hg : 0 < g.den) (h : f.value ≤ g.value)
    (hdays : (ofFraction f precision).days = (ofFraction g precision).days) :
    (ofFraction f precision).seconds ≤ (ofFraction g precision).seconds := by
  refine roundHalfUp_mono (quotient_den_pos _ _ hf) (quotient_den_pos _ _ hg) ?_
  refine quotient_mono _ hf hg ?_
  -- the same days are taken off, so what is left is in the order of the numbers
  have hwhole : f.num / f.den = g.num / g.den := hdays
  rw [rest_eq hf, rest_eq hg, hwhole]
  exact mul_le_mul_of_nonneg_right (sub_le_sub_right h _) (Nat.cast_nonneg _)

/-- The time of day rounds up to no more than a whole day. -/
theorem seconds_le (hf : 0 < f.den) : (ofFraction f precision).seconds ≤ daySeconds := by
  have hone : (0 : Nat) < 1 := Nat.one_pos
  have hday : roundHalfUp (precision.quotient daySeconds 1) = daySeconds :=
    roundHalfUp_of_value (quotient_den_pos _ _ hone) (value_quotient_one _ (by decide))
  have hrest : ((f.num % f.den * daySeconds : Nat) : ℚ) / f.den ≤ (daySeconds : ℚ) / (1 : Nat) := by
    have hmod : ((f.num % f.den : Nat) : ℚ) ≤ f.den := by exact_mod_cast (Nat.mod_lt _ hf).le
    rw [Nat.cast_one, div_one, div_le_iff₀ (by exact_mod_cast hf), Nat.cast_mul, mul_comm]
    exact mul_le_mul_of_nonneg_left hmod (Nat.cast_nonneg _)
  calc (ofFraction f precision).seconds
      ≤ roundHalfUp (precision.quotient daySeconds 1) :=
        roundHalfUp_mono (quotient_den_pos _ _ hf) (quotient_den_pos _ _ hone)
          (quotient_mono _ hf hone hrest)
    _ = daySeconds := hday

end SerialDate

/-! ## The clock -/

/-- The point in time after so many seconds. -/
def Moment.ofClock (clock : Nat) : Moment where
  date := Date.ofDays (clock / SerialDate.daySeconds)
  seconds := clock % SerialDate.daySeconds

/-- Points in time are in the order of their seconds. -/
theorem Moment.ofClock_le_iff {m n : Nat} : ofClock m ≤ ofClock n ↔ m ≤ n := by
  rw [le_iff, ofClock, ofClock]
  dsimp only
  rw [Date.ofDays_lt_iff, Date.ofDays_injective.eq_iff]
  unfold SerialDate.daySeconds
  omega

namespace SerialDate

variable {s t : SerialDate} {f g : Fraction} {precision : Precision}

/-- The seconds of a serial date, counted from 1900, since the first of March of the year 0. -/
def clock (s : SerialDate) : Nat := (epoch .from1900 s.days + s.days) * daySeconds + s.seconds

/-- The point in time of a serial date, counted from 1900. -/
def moment (s : SerialDate) : Moment := ⟨s.date .from1900, s.seconds % daySeconds⟩

theorem moment_eq_ofClock (s : SerialDate) : s.moment = Moment.ofClock s.clock := by
  have hdays : epoch .from1900 s.days + s.days + s.seconds / daySeconds = s.clock / daySeconds := by
    unfold clock daySeconds
    omega
  have hseconds : s.seconds % daySeconds = s.clock % daySeconds := by
    unfold clock daySeconds
    omega
  rw [moment, date, hdays, hseconds, Moment.ofClock]

/-- Whether a serial date falls on a day of the calendar. -/
def InCalendar (s : SerialDate) : Prop := (s.date .from1900).year ≤ maxYear

instance : Decidable s.InCalendar := inferInstanceAs (Decidable (_ ≤ _))

/-- The calendar ends long before the durations do. -/
theorem InCalendar.days_le (h : s.InCalendar) : s.days ≤ maxDays := by
  by_contra hlarge
  have hlate : Date.ofDays maxDays < s.date .from1900 := by
    refine Date.ofDays_lt ?_
    calc maxDays < s.days := Nat.not_le.mp hlarge
      _ ≤ epoch .from1900 s.days + s.days := Nat.le_add_left _ _
      _ ≤ epoch .from1900 s.days + s.days + s.seconds / daySeconds := Nat.le_add_right _ _
  have hyear : maxYear < (Date.ofDays maxDays).year := by decide +kernel
  have hle : (Date.ofDays maxDays).year ≤ (s.date .from1900).year := by
    rw [Date.lt_iff] at hlate
    omega
  exact Nat.not_lt.mpr h (Nat.lt_of_lt_of_le hyear hle)

/-- A serial date of the calendar from the day 1 on is written so that its point in time is read back. -/
theorem InCalendar.exists_text (h : s.InCalendar) (hdays : 0 < s.days) :
    ∃ text, s.text? .from1900 = .ok (some text) ∧ Moment.ofText? text = some s.moment := by
  unfold text?
  rw [if_neg (Nat.not_lt.mpr h.days_le)]
  dsimp only
  rw [if_neg (Nat.not_lt.mpr h)]
  by_cases hseconds : s.seconds = 0
  · have hmidnight : s.seconds % daySeconds = 0 := by rw [hseconds, Nat.zero_mod]
    rw [if_pos hseconds, moment, hmidnight]
    exact ⟨_, rfl, Moment.ofText?_text _⟩
  · rw [if_neg hseconds, if_neg (by omega), moment]
    exact ⟨_, rfl, Moment.ofText?_text_time _ _⟩

/-- Seconds go on from one number to a greater one, except from 59 to 60. -/
theorem clock_le_iff (h : s.days ≤ t.days) (hseconds : s.days = t.days → s.seconds ≤ t.seconds)
    (hs : s.seconds ≤ daySeconds) :
    s.clock ≤ t.clock ↔ ¬ (s.days = 59 ∧ t.days = 60 ∧ t.seconds < s.seconds) := by
  -- the seconds carry at most one day, which is the least that greater numbers add to the day, unless the
  -- epoch changes between them and takes it back
  unfold clock epoch
  unfold daySeconds at *
  dsimp only
  split <;> split <;> omega

/--
**Points in time are in the order of the serial dates**, counted from 1900, but for the day that never was.
Two numbers of days from 1 on that fall into the calendar, of which the first is not greater, are written as
texts that name points in time, and the first of these is not later than the second, unless the first
number is of the day 59, the second is of the day 60, and the time of day of the first, in whole seconds, is
later than that of the second. This holds of the times of day as they are computed in doubles and of the
exact ones.
-/
theorem text?_order (precision : Precision) (f g : Fraction) (hf : 0 < f.den) (hg : 0 < g.den)
    (hone : 1 ≤ f.value) (hle : f.value ≤ g.value) (hcalendar : (ofFraction f precision).InCalendar)
    (hcalendar' : (ofFraction g precision).InCalendar) :
    ∃ text text' m m', (ofFraction f precision).text? .from1900 = .ok (some text)
      ∧ (ofFraction g precision).text? .from1900 = .ok (some text')
      ∧ Moment.ofText? text = some m ∧ Moment.ofText? text' = some m'
      ∧ (m ≤ m' ↔ ¬ ((ofFraction f precision).days = 59 ∧ (ofFraction g precision).days = 60
        ∧ (ofFraction g precision).seconds < (ofFraction f precision).seconds)) := by
  have hdays : 0 < (ofFraction f precision).days := by
    have hfloor := Nat.floor_mono hone
    unfold Fraction.value at hfloor
    rwa [Nat.floor_one, Nat.floor_div_eq_div] at hfloor
  have hmono : (ofFraction f precision).days ≤ (ofFraction g precision).days := days_mono hle
  obtain ⟨text, htext, hread⟩ := hcalendar.exists_text hdays
  obtain ⟨text', htext', hread'⟩ := hcalendar'.exists_text (Nat.lt_of_lt_of_le hdays hmono)
  refine ⟨text, text', _, _, htext, htext', hread, hread', ?_⟩
  rw [moment_eq_ofClock, moment_eq_ofClock, Moment.ofClock_le_iff]
  exact clock_le_iff hmono (seconds_mono hf hg hle) (seconds_le hf)

/-- From a quarter past the day 59 to half past the day 60 the order is kept. -/
theorem text?_order_within_a_day :
    1 ≤ Fraction.value ⟨237, 4⟩ ∧ Fraction.value ⟨237, 4⟩ ≤ Fraction.value ⟨121, 2⟩
      ∧ (ofFraction ⟨237, 4⟩ .exact).InCalendar ∧ (ofFraction ⟨121, 2⟩ .exact).InCalendar
      ∧ ∃ text text' m m', (ofFraction ⟨237, 4⟩ .exact).text? .from1900 = .ok (some text)
        ∧ (ofFraction ⟨121, 2⟩ .exact).text? .from1900 = .ok (some text')
        ∧ Moment.ofText? text = some m ∧ Moment.ofText? text' = some m' ∧ m ≤ m' := by
  have hone : 1 ≤ Fraction.value ⟨237, 4⟩ := by norm_num [Fraction.value]
  have hle : Fraction.value ⟨237, 4⟩ ≤ Fraction.value ⟨121, 2⟩ := by norm_num [Fraction.value]
  have hcalendar : (ofFraction ⟨237, 4⟩ .exact).InCalendar := by decide
  have hcalendar' : (ofFraction ⟨121, 2⟩ .exact).InCalendar := by decide
  obtain ⟨text, text', m, m', htext, htext', hread, hread', horder⟩ :=
    text?_order .exact ⟨237, 4⟩ ⟨121, 2⟩ (by decide) (by decide) hone hle hcalendar hcalendar'
  exact ⟨hone, hle, hcalendar, hcalendar', text, text', m, m', htext, htext', hread, hread',
    horder.mpr (by decide)⟩

/-- Noon of the day 59 is later than the number 60. -/
theorem noon_later_than_sixty :
    1 ≤ Fraction.value ⟨119, 2⟩ ∧ Fraction.value ⟨119, 2⟩ ≤ Fraction.value ⟨60, 1⟩
      ∧ (ofFraction ⟨119, 2⟩ .exact).InCalendar ∧ (ofFraction ⟨60, 1⟩ .exact).InCalendar
      ∧ ∃ m m', (ofFraction ⟨119, 2⟩ .exact).text? .from1900 = .ok (some "1900-02-28T12:00:00")
        ∧ (ofFraction ⟨60, 1⟩ .exact).text? .from1900 = .ok (some "1900-02-28")
        ∧ Moment.ofText? "1900-02-28T12:00:00" = some m ∧ Moment.ofText? "1900-02-28" = some m'
        ∧ ¬ m ≤ m' := by
  refine ⟨by norm_num [Fraction.value], by norm_num [Fraction.value], by decide, by decide,
    ⟨⟨1900, 2, 28⟩, 43200⟩, ⟨⟨1900, 2, 28⟩, 0⟩, by decide +kernel, by decide +kernel,
    by decide +kernel, by decide +kernel, ?_⟩
  rw [Moment.le_iff, Date.lt_iff]
  decide

end SerialDate

end Sheetwise
