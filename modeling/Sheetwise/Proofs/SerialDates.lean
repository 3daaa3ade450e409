import Sheetwise.Proofs.DateTexts
import Sheetwise.Proofs.WholeParts
import Sheetwise.SerialDate

/-!
# Serial dates on the calendar

A whole serial number is a number of days. Counted from 1900 there are two stretches, since the day that
has the number 60 never was: up to 59 the days go on from the last one of 1899, and from 61 on from the
day before that, so that the number is one ahead. Within each stretch one day more is the next day of the
calendar, and the second stretch begins after the first one ends. Counted from 1904 there is no such day,
and the count is only moved.
-/

namespace Sheetwise

namespace Date

/-- The last day whose year has four digits. -/
def lastOfFour : Nat := 3652364

theorem ofDays_lastOfFour : ofDays lastOfFour = ⟨9999, 12, 31⟩ := by decide

theorem year_ofDays_le {n : Nat} (h : n ≤ lastOfFour) : (ofDays n).year ≤ 9999 := by
  have hlast := ofDays_lastOfFour
  rcases Nat.lt_or_eq_of_le h with hlt | rfl
  · have hbefore := ofDays_lt hlt
    rw [hlast, lt_iff] at hbefore
    dsimp only at hbefore
    omega
  · rw [hlast]

theorem text_ofDays {n : Nat} (h : n ≤ lastOfFour) : (ofDays n).text = (ofDays n).iso :=
  text_eq_iso (year_ofDays_le h) (ofDays_lt_hundred n).1 (ofDays_lt_hundred n).2

theorem iso_ofDays_lt {m n : Nat} (h : m < n) (hn : n ≤ lastOfFour) :
    (ofDays m).iso < (ofDays n).iso :=
  iso_lt (ofDays_lt h) (year_ofDays_le hn) (ofDays_lt_hundred n).1 (ofDays_lt_hundred n).2

end Date

namespace SerialDate

variable {system : DateSystem} {m n : Nat}

/-! ## Whole numbers -/

/-- A whole number of days leaves nothing for the time of day. -/
theorem ofFraction_of_whole {f : Fraction} (hden : 0 < f.den) (h : f.num = n * f.den) :
    ofFraction f = ⟨n, 0⟩ := by
  have hzero : Binary64.nearestBits 0 f.den = 0 := by
    rw [Binary64.nearestBits_eq, if_pos (Or.inl rfl)]
  have hquotient : Precision.double.quotient 0 f.den = Binary64.fraction 0 :=
    congrArg Binary64.fraction hzero
  have hmidnight : roundHalfUp (Binary64.fraction 0) = 0 := by decide +kernel
  rw [ofFraction, h, Nat.mul_div_cancel _ hden, Nat.mul_mod_left, Nat.zero_mul, hquotient, hmidnight]

theorem ofFloat?_ofInt (h : n < 2 ^ 53) : ofFloat? (Binary64.ofInt n) = some ⟨n, 0⟩ := by
  have hnegative : Binary64.isNegative (Binary64.ofInt n) = false := by
    rw [Binary64.isNegative_ofInt]
    exact decide_eq_false (by omega)
  have hfinite : Binary64.isFinite (Binary64.ofInt n) = true := Binary64.isFinite_ofInt (by omega)
  have hmagnitude : Binary64.magnitude (Binary64.magnitudeBits (Binary64.ofInt n)) = n := by
    rw [Binary64.magnitudeBits_ofInt]
    exact (Binary64.magnitude_nearestBits h).2
  unfold ofFloat?
  rw [hfinite, hnegative]
  refine congrArg some (ofFraction_of_whole (Binary64.den_pos _) ?_)
  -- the double is exact, so its fraction is the whole number itself
  have hvalue := Binary64.num_div_den_eq_magnitude (Binary64.magnitudeBits (Binary64.ofInt n))
  rw [hmagnitude, div_eq_iff (by exact_mod_cast (Binary64.den_pos _).ne')] at hvalue
  exact_mod_cast hvalue

/-- A whole number of days with a year of four digits is written as the day that it falls on. -/
theorem textOf?_ofInt (h : epoch system n + n ≤ Date.lastOfFour) :
    textOf? system (Binary64.ofInt n) = .ok (some (Date.ofDays (epoch system n + n)).iso) := by
  have hn : n ≤ Date.lastOfFour := Nat.le_trans (Nat.le_add_left _ _) h
  have hdays : ¬ maxDays < n := by
    unfold Date.lastOfFour at hn
    unfold maxDays
    omega
  have hdate : date system ⟨n, 0⟩ = Date.ofDays (epoch system n + n) := by
    unfold date
    dsimp only
    rw [Nat.zero_div, Nat.add_zero]
  have hyear : ¬ maxYear < (Date.ofDays (epoch system n + n)).year := by
    have := Date.year_ofDays_le h
    unfold maxYear
    omega
  unfold textOf?
  rw [ofFloat?_ofInt (by unfold Date.lastOfFour at hn; omega)]
  unfold text?
  dsimp only
  rw [if_neg hdays, hdate, if_neg hyear, if_pos rfl, Date.text_ofDays h]

/-! ## The two stretches -/

/-- The last serial number of a day whose year has four digits. -/
def lastSerial : Nat := 2958465

/-- The serial numbers, counted from 1900, of days that there are. -/
def Dated (n : Nat) : Prop := 1 ≤ n ∧ n ≤ 59 ∨ 61 ≤ n ∧ n ≤ lastSerial

theorem Dated.le_lastOfFour (h : Dated n) : epoch .from1900 n + n ≤ Date.lastOfFour := by
  unfold Dated lastSerial at h
  unfold epoch Date.lastOfFour
  dsimp only
  split <;> omega

/-- From one serial number to a greater one the day moves on, also over the day that there is not. -/
theorem Dated.epoch_add_lt (h : m < n) (hn : Dated n) :
    epoch .from1900 m + m < epoch .from1900 n + n := by
  unfold Dated at hn
  unfold epoch
  dsimp only
  -- where the epoch changes it takes one day back, but from there the number 60 is left out
  split <;> split <;> omega

/-- The day of a serial number from 61 on, counted from 1900. -/
theorem ofDays_epoch_of_lt (h : 59 < n) :
    Date.ofDays (epoch .from1900 n + n) = Date.next^[n] ⟨1899, 12, 30⟩ := by
  have hday : Date.ofDays 693899 = ⟨1899, 12, 30⟩ := by decide
  unfold epoch
  dsimp only
  rw [if_neg (by omega), Date.ofDays_add, hday]

/-- The day of a serial number up to 59, counted from 1900. -/
theorem ofDays_epoch_of_le (h : n ≤ 59) :
    Date.ofDays (epoch .from1900 n + n) = Date.next^[n] ⟨1899, 12, 31⟩ := by
  have hday : Date.ofDays 693900 = ⟨1899, 12, 31⟩ := by decide
  unfold epoch
  dsimp only
  rw [if_pos (by omega), Date.ofDays_add, hday]

theorem textOf?_lt (h : m < n) (hm : Dated m) (hn : Dated n) {s t : String}
    (hs : textOf? .from1900 (Binary64.ofInt m) = .ok (some s))
    (ht : textOf? .from1900 (Binary64.ofInt n) = .ok (some t)) : s < t := by
  rw [textOf?_ofInt hm.le_lastOfFour, Except.ok.injEq, Option.some.injEq] at hs
  rw [textOf?_ofInt hn.le_lastOfFour, Except.ok.injEq, Option.some.injEq] at ht
  rw [← hs, ← ht]
  exact Date.iso_ofDays_lt (Dated.epoch_add_lt h hn) hn.le_lastOfFour

/-- The texts of serial numbers are in the order of the numbers, and differ if these do. -/
theorem textOf?_order (hm : Dated m) (hn : Dated n) {s t : String}
    (hs : textOf? .from1900 (Binary64.ofInt m) = .ok (some s))
    (ht : textOf? .from1900 (Binary64.ofInt n) = .ok (some t)) :
    (s < t ↔ m < n) ∧ (s = t ↔ m = n) := by
  rcases Nat.lt_trichotomy m n with hlt | rfl | hgt
  · have h := textOf?_lt hlt hm hn hs ht
    refine ⟨iff_of_true h hlt, iff_of_false ?_ hlt.ne⟩
    rintro rfl
    exact String.lt_irrefl _ h
  · rw [hs, Except.ok.injEq, Option.some.injEq] at ht
    subst ht
    exact ⟨iff_of_false (String.lt_irrefl _) (Nat.lt_irrefl _), iff_of_true rfl rfl⟩
  · have h := textOf?_lt hgt hn hm ht hs
    refine ⟨iff_of_false (fun h' => String.lt_irrefl _ (String.lt_trans h h')) (by omega),
      iff_of_false ?_ hgt.ne'⟩
    rintro rfl
    exact String.lt_irrefl _ h

/-- Counted from 1904 the same days have lower numbers. -/
theorem textOf?_from1904 (h : n + 1462 ≤ lastSerial) : textOf? .from1904 (Binary64.ofInt n)
    = textOf? .from1900 (Binary64.ofInt ((n + 1462 : Nat) : Int)) := by
  have hepoch : epoch .from1904 n + n = epoch .from1900 (n + 1462) + (n + 1462) := by
    unfold epoch
    dsimp only
    rw [if_neg (by omega)]
    omega
  have hdated : Dated (n + 1462) := Or.inr ⟨by omega, h⟩
  rw [textOf?_ofInt hdated.le_lastOfFour, textOf?_ofInt (hepoch ▸ hdated.le_lastOfFour), hepoch]

/--
**Serial numbers follow the calendar.** Counted from 1900, the number `n` from 61 on is the `n`th day after
the 30th of December 1899, up to 59 the `n`th after the 31st, and the last number is the last day of the
year 9999. Each is written in ten characters, different ones differently and in their order. Counted from
1904, a number is written as the one 1462 above it is when counted from 1900.
-/
theorem textOf?_calendar :
    (∀ n, 61 ≤ n → n ≤ lastSerial → textOf? .from1900 (Binary64.ofInt (n : Nat))
        = .ok (some (Date.next^[n] ⟨1899, 12, 30⟩).iso))
      ∧ (∀ n, 1 ≤ n → n ≤ 59 → textOf? .from1900 (Binary64.ofInt (n : Nat))
        = .ok (some (Date.next^[n] ⟨1899, 12, 31⟩).iso))
      ∧ Date.next^[lastSerial] ⟨1899, 12, 30⟩ = ⟨9999, 12, 31⟩
      ∧ (∀ m n, Dated m → Dated n → ∀ s t, textOf? .from1900 (Binary64.ofInt (m : Nat)) = .ok (some s) →
        textOf? .from1900 (Binary64.ofInt (n : Nat)) = .ok (some t) →
        (s < t ↔ m < n) ∧ (s = t ↔ m = n))
      ∧ ∀ n, n + 1462 ≤ lastSerial → textOf? .from1904 (Binary64.ofInt (n : Nat))
        = textOf? .from1900 (Binary64.ofInt ((n + 1462 : Nat) : Int)) := by
  refine ⟨fun n hlow hhigh => ?_, fun n hlow hhigh => ?_, ?_, fun m n hm hn s t => ?_, fun n h => ?_⟩
  · have hdated : Dated n := Or.inr ⟨hlow, hhigh⟩
    rw [textOf?_ofInt hdated.le_lastOfFour, ofDays_epoch_of_lt (by omega)]
  · have hdated : Dated n := Or.inl ⟨hlow, hhigh⟩
    rw [textOf?_ofInt hdated.le_lastOfFour, ofDays_epoch_of_le hhigh]
  · rw [← ofDays_epoch_of_lt (by decide)]
    exact Date.ofDays_lastOfFour
  · exact textOf?_order hm hn
  · exact textOf?_from1904 h

theorem textOf?_calendar_around_leap_day :
    textOf? .from1900 (Binary64.ofInt 61) = .ok (some "1900-03-01")
      ∧ textOf? .from1900 (Binary64.ofInt 59) = .ok (some "1900-02-28")
      ∧ "1900-02-28" < "1900-03-01"
      ∧ textOf? .from1904 (Binary64.ofInt 0) = textOf? .from1900 (Binary64.ofInt 1462) := by
  obtain ⟨hlater, hearlier, -, horder, hmoved⟩ := textOf?_calendar
  have h61 : textOf? .from1900 (Binary64.ofInt 61) = .ok (some "1900-03-01") :=
    (hlater 61 (by decide) (by decide)).trans (by decide +kernel)
  have h59 : textOf? .from1900 (Binary64.ofInt 59) = .ok (some "1900-02-28") :=
    (hearlier 59 (by decide) (by decide)).trans (by decide +kernel)
  have hlt := (horder 59 61 (Or.inl (by decide)) (Or.inr (by decide)) _ _ h59 h61).1.mpr (by decide)
  exact ⟨h61, h59, hlt, hmoved 0 (by decide)⟩

end SerialDate

end Sheetwise
