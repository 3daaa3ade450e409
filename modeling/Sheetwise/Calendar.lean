import Sheetwise.Text.Shortest

/-!
# The calendar

Days of the Gregorian calendar, continued without a break to before it was in use. A day is found
from its distance to the first of March of the year 0: counting years from March puts the leap day
last, and the lengths of the months before it follow a straight line.
-/

namespace Sheetwise

/-- A day of the calendar; months and days count from one. -/
structure Date where
  year : Nat
  month : Nat
  day : Nat
deriving DecidableEq, Repr

namespace Date

/-- The number of days in 400 years. -/
def cycle : Nat := 146097

/-- The day `n` days after the first of March of the year 0. -/
def ofDays (n : Nat) : Date :=
  let day := n % cycle
  let year := (day - day / 1460 + day / 36524 - day / 146096) / 365
  let dayOfYear := day - (365 * year + year / 4 - year / 100)
  let month := (5 * dayOfYear + 2) / 153
  let year := 400 * (n / cycle) + year
  { year := if month < 10 then year else year + 1
    month := if month < 10 then month + 3 else month - 9
    day := dayOfYear - (153 * month + 2) / 5 + 1 }

/-- A number in at least `width` digits. -/
def padded (width n : Nat) : String :=
  let digits := Text.digitsOf n
  String.ofList (List.replicate (width - digits.length) '0' ++ digits)

/-- A day as text, largest unit first. A year of more than four digits has a plus sign. -/
def text (d : Date) : String :=
  (if d.year ≤ 9999 then padded 4 d.year else "+" ++ Text.ofNat d.year) ++ "-" ++
    padded 2 d.month ++ "-" ++ padded 2 d.day

end Date

/-- The time of day that is a number of seconds after midnight, as text. -/
def timeText (seconds : Nat) : String :=
  Date.padded 2 (seconds / 3600) ++ ":" ++ Date.padded 2 (seconds / 60 % 60) ++ ":" ++
    Date.padded 2 (seconds % 60)

end Sheetwise
