import Mathlib.Logic.Function.Iterate
import Mathlib.Order.Monotone.Basic
import Mathlib.Tactic.Common
import Sheetwise.Calendar

/-!
# One day after the other

The calendar is a rule for the day after a day: the next one of the month, or the first of the next month,
or the first of the next year, where a month is as long as it is and February is longer in leap years. A
day that is found from its distance to another is right if it is the one that this rule leads to in as
many steps.

The distance is cut into years that begin in March, so that the leap day is the last of its year and the
beginnings of the months before it do not depend on it. The year is found by one division that no longer
sees where the years begin. It is a growing function of the day, so it is enough that it is right on the
first and on the last day of each year, and there are no more than 400 of these before they repeat.
-/

namespace Sheetwise.Date

/-! ## The rule -/

/-- Whether a year has a 29th of February. -/
def isLeap (year : Nat) : Bool := decide (4 ∣ year ∧ (¬ 100 ∣ year ∨ 400 ∣ year))

/-- The number of days in a month, which for February depends on the year. -/
def monthLength (leap : Bool) (month : Nat) : Nat :=
  if month = 2 then 28 + leap.toNat
  else if month = 4 ∨ month = 6 ∨ month = 9 ∨ month = 11 then 30
  else 31

/-- The day after a day. -/
def next (d : Date) : Date :=
  if d.day < monthLength (isLeap d.year) d.month then { d with day := d.day + 1 }
  else if d.month < 12 then { year := d.year, month := d.month + 1, day := 1 }
  else { year := d.year + 1, month := 1, day := 1 }

/-- Days are ordered by their years, then by their months, then by their numbers in the month. -/
instance : LT Date where
  lt d d' := d.year < d'.year
    ∨ d.year = d'.year ∧ (d.month < d'.month ∨ d.month = d'.month ∧ d.day < d'.day)

theorem lt_iff {d d' : Date} : d < d' ↔ d.year < d'.year
    ∨ d.year = d'.year ∧ (d.month < d'.month ∨ d.month = d'.month ∧ d.day < d'.day) := Iff.rfl

theorem lt_irrefl (d : Date) : ¬ d < d := by
  rw [lt_iff]
  omega

theorem lt_trans {d d' d'' : Date} (h : d < d') (h' : d' < d'') : d < d'' := by
  rw [lt_iff] at *
  omega

/-- The day after a day is later. -/
theorem lt_next (d : Date) : d < d.next := by
  unfold next
  split
  · exact lt_iff.mpr (Or.inr ⟨rfl, Or.inr ⟨rfl, Nat.lt_succ_self _⟩⟩)
  · split
    · exact lt_iff.mpr (Or.inr ⟨rfl, Or.inl (Nat.lt_succ_self _)⟩)
    · exact lt_iff.mpr (Or.inl (Nat.lt_succ_self _))

/-! ## Years that begin in March -/

/-- The number of days before the first of March of a year, from that of the year 0 on. -/
def newYear (year : Nat) : Nat := 365 * year + year / 4 - year / 100 + year / 400

/-- The year of a day of the first cycle. -/
def yearIn (day : Nat) : Nat := (day - day / 1460 + day / 36524 - day / 146096) / 365

/-- The year of a day. -/
def marchYear (n : Nat) : Nat := 400 * (n / cycle) + yearIn (n % cycle)

/-- A year is a day longer if there is a leap day at its end. -/
theorem newYear_succ (year : Nat) :
    newYear (year + 1) = newYear year + 365 + (isLeap (year + 1)).toNat := by
  have hle : year / 100 ≤ year / 4 := Nat.div_le_div_left (by decide) (by decide)
  have h100 : 100 ∣ year + 1 → 4 ∣ year + 1 := Nat.dvd_trans (by decide)
  have h400 : 400 ∣ year + 1 → 100 ∣ year + 1 := Nat.dvd_trans (by decide)
  have hleap : (isLeap (year + 1)).toNat
      = if 4 ∣ year + 1 ∧ (¬ 100 ∣ year + 1 ∨ 400 ∣ year + 1) then 1 else 0 := by
    unfold isLeap
    split
    · next h => rw [decide_eq_true h]; rfl
    · next h => rw [decide_eq_false h]; rfl
  unfold newYear
  rw [hleap, Nat.succ_div, Nat.succ_div, Nat.succ_div]
  -- each of the three rules takes back the one before it, so the cases are nested
  by_cases h4 : 4 ∣ year + 1
  · by_cases h1 : 100 ∣ year + 1
    · by_cases h : 400 ∣ year + 1
      · rw [if_pos h4, if_pos h1, if_pos h, if_pos ⟨h4, Or.inr h⟩]
        omega
      · rw [if_pos h4, if_pos h1, if_neg h, if_neg fun hleap => hleap.2.elim (· h1) h]
        omega
    · rw [if_pos h4, if_neg h1, if_neg (mt h400 h1), if_pos ⟨h4, Or.inl h1⟩]
      omega
  · rw [if_neg h4, if_neg (mt h100 h4), if_neg (mt h400 (mt h100 h4)), if_neg fun h => h4 h.1]
    omega

theorem newYear_strictMono : StrictMono newYear :=
  strictMono_nat_of_lt_succ fun year => by rw [newYear_succ]; omega

theorem newYear_cycle (n year : Nat) : newYear (400 * n + year) = cycle * n + newYear year := by
  unfold newYear cycle
  omega

theorem yearIn_mono : Monotone yearIn := by
  refine monotone_nat_of_le_succ fun day => Nat.div_le_div_right ?_
  omega

/-- The year is right on the first and on the last day of each year. -/
theorem yearIn_first_last :
    ∀ year < 400, yearIn (newYear year) = year ∧ yearIn (newYear (year + 1) - 1) = year := by
  decide +kernel

/-- So it is right on all days, of which none lies outside its year. -/
theorem yearIn_bounds {day : Nat} (h : day < cycle) :
    yearIn day < 400 ∧ newYear (yearIn day) ≤ day ∧ day < newYear (yearIn day + 1) := by
  have hcycle : newYear 400 = cycle := by decide
  have hyear : yearIn day < 400 := by
    have hle : yearIn day ≤ yearIn (newYear (399 + 1) - 1) :=
      yearIn_mono (by rw [hcycle]; exact Nat.le_sub_one_of_lt h)
    have hlast := (yearIn_first_last 399 (by decide)).2
    omega
  refine ⟨hyear, ?_, ?_⟩
  · by_contra hbefore
    cases hy : yearIn day with
    | zero =>
        rw [hy] at hbefore
        exact hbefore (Nat.zero_le _)
    | succ year =>
        rw [hy] at hbefore hyear
        have hle := yearIn_mono (show day ≤ newYear (year + 1) - 1 by omega)
        have hlast := (yearIn_first_last year (by omega)).2
        omega
  · by_contra hafter
    by_cases hlast : yearIn day + 1 < 400
    · have hle := yearIn_mono (Nat.not_lt.mp hafter)
      have hfirst := (yearIn_first_last _ hlast).1
      omega
    · have hend : yearIn day + 1 = 400 := by omega
      rw [hend, hcycle] at hafter
      exact hafter h

theorem marchYear_bounds (n : Nat) : newYear (marchYear n) ≤ n ∧ n < newYear (marchYear n + 1) := by
  have hpos : 0 < cycle := by decide
  obtain ⟨-, hfirst, hlast⟩ := yearIn_bounds (Nat.mod_lt n hpos)
  have hsplit := Nat.div_add_mod n cycle
  unfold marchYear
  rw [Nat.add_assoc, newYear_cycle, newYear_cycle]
  omega

/-- There is only one year that a day lies in. -/
theorem marchYear_eq {n year : Nat} (h : newYear year ≤ n) (h' : n < newYear (year + 1)) :
    marchYear n = year := by
  obtain ⟨hfirst, hlast⟩ := marchYear_bounds n
  have hlt := newYear_strictMono.lt_iff_lt.mp (Nat.lt_of_le_of_lt hfirst h')
  have hlt' := newYear_strictMono.lt_iff_lt.mp (Nat.lt_of_le_of_lt h hlast)
  omega

/-! ## Months -/

/-- The month of a day of a year, counted from March on. -/
def monthIn (day : Nat) : Nat := (5 * day + 2) / 153

/-- The number of a day in its month. -/
def dayIn (day : Nat) : Nat := day - (153 * monthIn day + 2) / 5 + 1

/-- The number of a month that is counted from March on. -/
def monthOf (month : Nat) : Nat := if month < 10 then month + 3 else month - 9

/-- A day of a year that begins in March. -/
def ofYear (year day : Nat) : Date where
  year := if monthIn day < 10 then year else year + 1
  month := monthOf (monthIn day)
  day := dayIn day

theorem ofDays_eq (n : Nat) : ofDays n = ofYear (marchYear n) (n - newYear (marchYear n)) := by
  have hday : n % cycle - (365 * yearIn (n % cycle) + yearIn (n % cycle) / 4 - yearIn (n % cycle) / 100)
      = n - newYear (marchYear n) := by
    have hyear := (yearIn_bounds (Nat.mod_lt n (show 0 < cycle by decide))).1
    have hsplit := Nat.div_add_mod n cycle
    unfold marchYear
    rw [newYear_cycle]
    unfold newYear
    omega
  rw [← hday]
  rfl

/-- A day is followed by the next of its month or by the first of the next month. -/
theorem step_in_year : ∀ leap : Bool, ∀ day < 366, day + 1 < 365 + leap.toNat →
    (dayIn day < monthLength leap (monthOf (monthIn day)) ∧ monthIn (day + 1) = monthIn day
      ∧ dayIn (day + 1) = dayIn day + 1)
    ∨ (¬ dayIn day < monthLength leap (monthOf (monthIn day)) ∧ monthIn (day + 1) = monthIn day + 1
      ∧ dayIn (day + 1) = 1 ∧ monthIn day < 11) := by
  decide +kernel

/-- The last day of a year is the last of February. -/
theorem last_of_year : ∀ leap : Bool, monthIn (364 + leap.toNat) = 11
    ∧ dayIn (364 + leap.toNat) = monthLength leap 2 := by
  decide

/-- Only the year that February lies in says how long a month is. -/
theorem monthLength_ofYear (year day : Nat) :
    monthLength (isLeap (ofYear year day).year) (ofYear year day).month
      = monthLength (isLeap (year + 1)) (monthOf (monthIn day)) := by
  unfold ofYear
  dsimp only
  split
  · next h =>
    unfold monthOf monthLength
    rw [if_pos h, if_neg (by omega), if_neg (by omega : ¬ monthIn day + 3 = 2)]
  · rfl

theorem next_ofYear {year day : Nat} (h : day + 1 < 365 + (isLeap (year + 1)).toNat) :
    (ofYear year day).next = ofYear year (day + 1) := by
  have hday : day < 366 := by
    have := Bool.toNat_le (isLeap (year + 1))
    omega
  have hnumber : (ofYear year day).day = dayIn day := rfl
  unfold next
  rw [monthLength_ofYear, hnumber]
  rcases step_in_year _ day hday h with ⟨hlt, hmonth, hnext⟩ | ⟨hlt, hmonth, hnext, hbefore⟩
  · rw [if_pos hlt]
    unfold ofYear
    rw [hmonth, hnext]
  · rw [if_neg hlt]
    unfold ofYear monthOf
    dsimp only
    rw [hmonth, hnext]
    -- December is the month before the tenth from March on
    split_ifs <;> simp only [Date.mk.injEq, and_true, true_and] <;> omega

theorem next_ofYear_last (year : Nat) :
    (ofYear year (364 + (isLeap (year + 1)).toNat)).next = ofYear (year + 1) 0 := by
  obtain ⟨hmonth, hday⟩ := last_of_year (isLeap (year + 1))
  have hlast : ¬ dayIn (364 + (isLeap (year + 1)).toNat)
      < monthLength (isLeap (year + 1)) (monthOf (monthIn (364 + (isLeap (year + 1)).toNat))) := by
    rw [hmonth, hday]
    exact Nat.lt_irrefl _
  unfold next
  rw [monthLength_ofYear]
  refine (if_neg hlast).trans ?_
  unfold ofYear
  dsimp only
  rw [hmonth]
  rfl

/-! ## Days -/

/-- **The day at the next distance is the next day.** -/
theorem ofDays_succ (n : Nat) : ofDays (n + 1) = (ofDays n).next := by
  obtain ⟨hfirst, hlast⟩ := marchYear_bounds n
  have hlength := newYear_succ (marchYear n)
  rw [ofDays_eq, ofDays_eq]
  -- the next day is of the same year, or the first of March
  by_cases h : n + 1 < newYear (marchYear n + 1)
  · have hyear : marchYear (n + 1) = marchYear n := marchYear_eq (by omega) h
    rw [hyear, next_ofYear (by omega), Nat.sub_add_comm hfirst]
  · have hnew : n + 1 = newYear (marchYear n + 1) := by omega
    have hyear : marchYear (n + 1) = marchYear n + 1 :=
      marchYear_eq (by omega) (by rw [hnew]; exact newYear_strictMono (Nat.lt_succ_self _))
    have hday : n - newYear (marchYear n) = 364 + (isLeap (marchYear n + 1)).toNat := by omega
    rw [hyear, hday, next_ofYear_last, hnew, Nat.sub_self]

/-- Days are counted on by going on from day to day. -/
theorem ofDays_add (m n : Nat) : ofDays (m + n) = next^[n] (ofDays m) := by
  induction n with
  | zero => rfl
  | succ n ih => rw [← Nat.add_assoc, ofDays_succ, ih, Function.iterate_succ_apply']

/-- The greater the distance, the later the day. -/
theorem ofDays_lt {m n : Nat} (h : m < n) : ofDays m < ofDays n := by
  induction h with
  | refl =>
      rw [ofDays_succ]
      exact lt_next _
  | step _ ih =>
      rw [ofDays_succ]
      exact lt_trans ih (lt_next _)

theorem ofDays_lt_iff {m n : Nat} : ofDays m < ofDays n ↔ m < n := by
  constructor
  · intro h
    by_contra hle
    rcases Nat.lt_or_eq_of_le (Nat.not_lt.mp hle) with hlt | rfl
    · exact lt_irrefl _ (lt_trans h (ofDays_lt hlt))
    · exact lt_irrefl _ h
  · exact ofDays_lt

/-- No day is found twice. -/
theorem ofDays_injective : Function.Injective ofDays := by
  intro m n h
  rcases Nat.lt_trichotomy m n with hlt | rfl | hgt
  · exact absurd (h ▸ ofDays_lt hlt) (lt_irrefl _)
  · rfl
  · exact absurd (h ▸ ofDays_lt hgt) (lt_irrefl _)

/-- Months and days have at most two digits. -/
theorem ofDays_lt_hundred (n : Nat) : (ofDays n).month < 100 ∧ (ofDays n).day < 100 := by
  obtain ⟨hfirst, hlast⟩ := marchYear_bounds n
  have hlength := newYear_succ (marchYear n)
  have hleap := Bool.toNat_le (isLeap (marchYear n + 1))
  rw [ofDays_eq]
  unfold ofYear monthOf dayIn monthIn
  dsimp only
  constructor
  · split <;> omega
  · omega

end Sheetwise.Date
