import Mathlib.Algebra.Group.Nat.Defs
import Mathlib.Data.List.Basic
import Sheetwise.Proofs.Calendar
import Sheetwise.Proofs.Spelling

/-!
# Days and times as text

A day is written with its largest unit first, each unit in a fixed number of digits as long as the year has
no more than four. Texts of that kind are compared character by character as the days are compared unit by
unit, so that sorting the one sorts the other. After the year 9999 this ends, but what is written can
still be read, with the time of day behind it.
-/

namespace Sheetwise

/-! ## Digits in fixed places -/

namespace Text

/-- The last digits of a number, as many as are asked for. -/
def lastDigits : Nat → Nat → List Char
  | 0, _ => []
  | width + 1, n => lastDigits width (n / 10) ++ [Nat.digitChar (n % 10)]

theorem length_lastDigits (width n : Nat) : (lastDigits width n).length = width := by
  induction width generalizing n with
  | zero => rfl
  | succ width ih => rw [lastDigits, List.length_append, ih, List.length_singleton]

theorem lastDigits_zero (width : Nat) : lastDigits width 0 = List.replicate width '0' := by
  induction width with
  | zero => rfl
  | succ width ih =>
      rw [lastDigits, Nat.zero_div, ih, List.replicate_succ']
      rfl

/-- A number that fits is its last digits with zeros before it. -/
theorem replicate_append_digitsOf {width n : Nat} (h : n < 10 ^ (width + 1)) :
    List.replicate (width + 1 - (digitsOf n).length) '0' ++ digitsOf n = lastDigits (width + 1) n := by
  induction width generalizing n with
  | zero =>
      rw [digitsOf, Nat.toDigits_of_lt_base (by omega), lastDigits, Nat.mod_eq_of_lt (by omega)]
      rfl
  | succ width ih =>
      rw [lastDigits]
      by_cases hn : n < 10
      · rw [digitsOf, Nat.toDigits_of_lt_base hn, Nat.div_eq_of_lt hn, lastDigits_zero,
          Nat.mod_eq_of_lt hn]
        rfl
      · have hfit : n / 10 < 10 ^ (width + 1) := by
          rw [Nat.pow_succ] at h
          omega
        have hdigits : digitsOf n = digitsOf (n / 10) ++ [Nat.digitChar (n % 10)] :=
          Nat.toDigits_of_base_le (by decide) (by omega)
        rw [← ih hfit, hdigits, List.length_append, List.length_singleton, Nat.add_sub_add_right,
          List.append_assoc]

/-- Of two texts of one length the first difference decides, whatever comes behind. -/
theorem append_lt_append {cs cs' : List Char} (hlength : cs.length = cs'.length) (h : cs < cs')
    (ds ds' : List Char) : cs ++ ds < cs' ++ ds' := by
  induction cs generalizing cs' with
  | nil =>
      cases cs' with
      | nil => exact absurd h (List.not_lt_nil _)
      | cons c' cs' => cases hlength
  | cons c cs ih =>
      cases cs' with
      | nil => cases hlength
      | cons c' cs' =>
          rw [List.cons_append, List.cons_append, List.cons_lt_cons_iff]
          rcases List.cons_lt_cons_iff.mp h with hlt | ⟨rfl, hlt⟩
          · exact Or.inl hlt
          · exact Or.inr ⟨rfl, ih (Nat.succ.inj hlength) hlt⟩

theorem digitChar_lt : ∀ m < 10, ∀ n < 10, m < n → Nat.digitChar m < Nat.digitChar n := by decide

/-- In the same number of digits the greater number is the later text. -/
theorem lastDigits_lt {width m n : Nat} (h : m < n) (hn : n < 10 ^ width) :
    lastDigits width m < lastDigits width n := by
  induction width generalizing m n with
  | zero => omega
  | succ width ih =>
      rw [lastDigits, lastDigits]
      rcases Nat.lt_or_eq_of_le (Nat.div_le_div_right (c := 10) h.le) with hlt | heq
      · have hfit : n / 10 < 10 ^ width := by
          rw [Nat.pow_succ] at hn
          omega
        exact append_lt_append (by rw [length_lastDigits, length_lastDigits]) (ih hlt hfit) _ _
      · rw [heq]
        refine List.append_left_lt (List.cons_lt_cons_iff.mpr (Or.inl ?_))
        exact digitChar_lt _ (Nat.mod_lt _ (by decide)) _ (Nat.mod_lt _ (by decide)) (by omega)

end Text

/-! ## Days in ten characters -/

namespace Date

/-- A day in ten characters: four digits for the year, two for the month and two for the day. -/
def iso (d : Date) : String :=
  String.ofList (Text.lastDigits 4 d.year
    ++ '-' :: (Text.lastDigits 2 d.month ++ '-' :: Text.lastDigits 2 d.day))

theorem padded_eq {width n : Nat} (h : n < 10 ^ (width + 1)) :
    padded (width + 1) n = String.ofList (Text.lastDigits (width + 1) n) := by
  rw [← Text.replicate_append_digitsOf h]
  rfl

/-- A day whose year has no more than four digits is written in ten characters. -/
theorem text_eq_iso {d : Date} (hyear : d.year ≤ 9999) (hmonth : d.month < 100) (hday : d.day < 100) :
    d.text = d.iso := by
  have hhyphen : "-" = String.ofList ['-'] := rfl
  rw [text, if_pos hyear, padded_eq (by omega), padded_eq hmonth, padded_eq hday, hhyphen,
    ← String.ofList_append, ← String.ofList_append, ← String.ofList_append, ← String.ofList_append]
  simp only [iso, List.append_assoc, List.cons_append, List.nil_append, Nat.reduceAdd]

/-- Days in ten characters are in the order of the days. -/
theorem iso_lt {d d' : Date} (h : d < d') (hyear : d'.year ≤ 9999) (hmonth : d'.month < 100)
    (hday : d'.day < 100) : d.iso < d'.iso := by
  rw [String.lt_iff, iso, iso, String.toList_ofList, String.toList_ofList]
  -- the first unit that differs stands behind equal texts
  rcases lt_iff.mp h with hlt | ⟨hy, hlt | ⟨hm, hlt⟩⟩
  · refine Text.append_lt_append ?_ (Text.lastDigits_lt hlt (by omega)) _ _
    rw [Text.length_lastDigits, Text.length_lastDigits]
  · rw [hy]
    refine List.append_left_lt (List.cons_lt_cons_iff.mpr (Or.inr ⟨rfl, ?_⟩))
    refine Text.append_lt_append ?_ (Text.lastDigits_lt hlt hmonth) _ _
    rw [Text.length_lastDigits, Text.length_lastDigits]
  · rw [hy, hm]
    refine List.append_left_lt (List.cons_lt_cons_iff.mpr (Or.inr ⟨rfl, ?_⟩))
    exact List.append_left_lt (List.cons_lt_cons_iff.mpr (Or.inr ⟨rfl, Text.lastDigits_lt hlt hday⟩))

end Date

/-! ## Reading -/

namespace Date

/-- The digits of a year, without the plus sign that may stand before them. -/
def dropPlus : List Char → List Char
  | '+' :: cs => cs
  | cs => cs

/-- The day that a text names. -/
def ofChars? (cs : List Char) : Option Date :=
  match cs.splitOn '-' with
  | [year, month, day] => do
    return ⟨← Text.digits? (dropPlus year), ← Text.digits? month, ← Text.digits? day⟩
  | _ => none

end Date

/-- A point in time: a day, and the seconds since it began. -/
structure Moment where
  date : Date
  seconds : Nat
deriving DecidableEq

namespace Moment

/-- A point in time is not later than another if its day is earlier, or the same and its time is not later. -/
instance : LE Moment where
  le m m' := m.date < m'.date ∨ m.date = m'.date ∧ m.seconds ≤ m'.seconds

theorem le_iff {m m' : Moment} :
    m ≤ m' ↔ m.date < m'.date ∨ m.date = m'.date ∧ m.seconds ≤ m'.seconds := Iff.rfl

/-- The seconds that a time of day in hours, minutes and seconds makes. -/
def seconds? (cs : List Char) : Option Nat :=
  match cs.splitOn ':' with
  | [hours, minutes, seconds] => do
    return (← Text.digits? hours) * 3600 + (← Text.digits? minutes) * 60 + (← Text.digits? seconds)
  | _ => none

/-- The point in time that a text names: the time of day stands behind a `T`, and else it is midnight. -/
def ofText? (s : String) : Option Moment :=
  match s.toList.splitOn 'T' with
  | [date] => do return ⟨← Date.ofChars? date, 0⟩
  | [date, time] => do return ⟨← Date.ofChars? date, ← seconds? time⟩
  | _ => none

end Moment

namespace Date

theorem isDigit_of_mem_padded {width n : Nat} {c : Char} (h : c ∈ (padded width n).toList) :
    Text.isDigit c = true := by
  rw [padded, String.toList_ofList] at h
  rcases List.mem_append.mp h with h | h
  · rw [List.eq_of_mem_replicate h]
    rfl
  · exact Text.isDigit_of_mem_digitsOf h

/-- Zeros before a number do not change it. -/
theorem digits?_padded (width n : Nat) : Text.digits? (padded width n).toList = some n := by
  obtain ⟨hne, -, hvalue⟩ := Text.digits?_eq_some_iff.mp (Text.digits?_digitsOf n)
  refine Text.digits?_eq_some_iff.mpr ⟨?_, fun c => isDigit_of_mem_padded, ?_⟩
  · rw [padded, String.toList_ofList]
    exact List.append_ne_nil_of_right_ne_nil _ hne
  · rw [padded, String.toList_ofList, Text.digitsValue_zeros_append]
    exact hvalue

theorem notMem_padded {c : Char} (hc : Text.isDigit c = false) (width n : Nat) :
    c ∉ (padded width n).toList := by
  intro h
  rw [isDigit_of_mem_padded h] at hc
  cases hc

/-- The year of a day as it is written. -/
def yearText (year : Nat) : String :=
  if year ≤ 9999 then padded 4 year else "+" ++ Text.ofNat year

theorem digits?_yearText (year : Nat) : Text.digits? (dropPlus (yearText year).toList) = some year := by
  unfold yearText
  split
  · have hplus := notMem_padded (c := '+') (by decide) 4 year
    have hself : dropPlus (padded 4 year).toList = (padded 4 year).toList := by
      unfold dropPlus
      split
      · next cs hcs =>
        rw [hcs] at hplus
        exact absurd List.mem_cons_self hplus
      · rfl
    rw [hself, digits?_padded]
  · rw [String.toList_append]
    show Text.digits? (Text.ofNat year).toList = some year
    rw [Text.ofNat, String.toList_ofList, Text.digits?_digitsOf]

theorem notMem_yearText {c : Char} (hc : Text.isDigit c = false) (hplus : c ≠ '+') (year : Nat) :
    c ∉ (yearText year).toList := by
  unfold yearText
  split
  · exact notMem_padded hc 4 year
  · rw [String.toList_append]
    intro h
    rcases List.mem_append.mp h with h | h
    · exact hplus (List.mem_singleton.mp h)
    · rw [Text.ofNat, String.toList_ofList] at h
      rw [Text.isDigit_of_mem_digitsOf h] at hc
      cases hc

theorem toList_text (d : Date) : d.text.toList = (yearText d.year).toList
    ++ '-' :: ((padded 2 d.month).toList ++ '-' :: (padded 2 d.day).toList) := by
  have hhyphen : "-".toList = ['-'] := rfl
  show (yearText d.year ++ "-" ++ padded 2 d.month ++ "-" ++ padded 2 d.day).toList = _
  simp only [String.toList_append, hhyphen, List.append_assoc, List.cons_append, List.nil_append]

/-- Every day is read back. -/
theorem ofChars?_text (d : Date) : ofChars? d.text.toList = some d := by
  have hsplit : d.text.toList.splitOn '-'
      = [(yearText d.year).toList, (padded 2 d.month).toList, (padded 2 d.day).toList] := by
    rw [toList_text,
      List.splitOn_append_cons_self_of_not_mem (notMem_yearText (by decide) (by decide) _),
      List.splitOn_append_cons_self_of_not_mem (notMem_padded (by decide) _ _),
      List.splitOn_eq_singleton (notMem_padded (by decide) _ _)]
  unfold ofChars?
  rw [hsplit]
  dsimp only
  rw [digits?_yearText, digits?_padded, digits?_padded]
  rfl

theorem notMem_text {c : Char} (hc : Text.isDigit c = false) (hplus : c ≠ '+') (hhyphen : c ≠ '-')
    (d : Date) : c ∉ d.text.toList := by
  rw [toList_text, List.mem_append, List.mem_cons, List.mem_append, List.mem_cons]
  rintro (h | h | h | h | h)
  · exact notMem_yearText hc hplus _ h
  · exact hhyphen h
  · exact notMem_padded hc _ _ h
  · exact hhyphen h
  · exact notMem_padded hc _ _ h

end Date

namespace Moment

theorem toList_timeText (n : Nat) : (timeText n).toList = (Date.padded 2 (n / 3600)).toList
    ++ ':' :: ((Date.padded 2 (n / 60 % 60)).toList ++ ':' :: (Date.padded 2 (n % 60)).toList) := by
  have hcolon : ":".toList = [':'] := rfl
  simp only [timeText, String.toList_append, hcolon, List.append_assoc, List.cons_append,
    List.nil_append]

/-- Every time of day is read back. -/
theorem seconds?_timeText (n : Nat) : seconds? (timeText n).toList = some n := by
  have hcolon : ∀ width k, ':' ∉ (Date.padded width k).toList := Date.notMem_padded (by decide)
  have hsplit : (timeText n).toList.splitOn ':' = [(Date.padded 2 (n / 3600)).toList,
      (Date.padded 2 (n / 60 % 60)).toList, (Date.padded 2 (n % 60)).toList] := by
    rw [toList_timeText, List.splitOn_append_cons_self_of_not_mem (hcolon _ _),
      List.splitOn_append_cons_self_of_not_mem (hcolon _ _), List.splitOn_eq_singleton (hcolon _ _)]
  have hunits : n / 3600 * 3600 + n / 60 % 60 * 60 + n % 60 = n := by omega
  unfold seconds?
  rw [hsplit]
  dsimp only
  rw [Date.digits?_padded, Date.digits?_padded, Date.digits?_padded]
  exact congrArg some hunits

theorem ofText?_text (d : Date) : ofText? d.text = some ⟨d, 0⟩ := by
  have hsplit : d.text.toList.splitOn 'T' = [d.text.toList] :=
    List.splitOn_eq_singleton (Date.notMem_text (by decide) (by decide) (by decide) d)
  unfold ofText?
  rw [hsplit]
  dsimp only
  rw [Date.ofChars?_text]
  rfl

theorem ofText?_text_time (d : Date) (n : Nat) :
    ofText? (d.text ++ "T" ++ timeText n) = some ⟨d, n⟩ := by
  have hT : ∀ width k, 'T' ∉ (Date.padded width k).toList := Date.notMem_padded (by decide)
  have htime : 'T' ∉ (timeText n).toList := by
    rw [toList_timeText, List.mem_append, List.mem_cons, List.mem_append, List.mem_cons]
    rintro (h | h | h | h | h)
    · exact hT _ _ h
    · exact absurd h (by decide)
    · exact hT _ _ h
    · exact absurd h (by decide)
    · exact hT _ _ h
  have hsplit : (d.text ++ "T" ++ timeText n).toList.splitOn 'T'
      = [d.text.toList, (timeText n).toList] := by
    have hmark : "T".toList = ['T'] := rfl
    rw [String.toList_append, String.toList_append, hmark, List.append_assoc, List.singleton_append,
      List.splitOn_append_cons_self_of_not_mem
        (Date.notMem_text (by decide) (by decide) (by decide) d),
      List.splitOn_eq_singleton htime]
  unfold ofText?
  rw [hsplit]
  dsimp only
  rw [Date.ofChars?_text, seconds?_timeText]
  rfl

end Moment

end Sheetwise
