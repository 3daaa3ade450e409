import Sheetwise.Binary64
import Sheetwise.Calendar
import Sheetwise.Fault

/-!
# Serial dates

A file writes a point in time as a number of days, with the time of day as a fraction. Days count
from the first of January 1904 or, in most files, so that the first day is the first of January 1900.
The latter count has a day too many, the 29th of February 1900, which never was: from day 60 on it
runs one ahead.
-/

namespace Sheetwise

/-- The day from which serial dates count. -/
inductive DateSystem where
  | from1900
  | from1904
deriving DecidableEq, Repr

/-- A serial date: whole days, and the time of day in seconds, which may round up to a whole day. -/
structure SerialDate where
  days : Nat
  seconds : Nat
deriving DecidableEq, Repr

namespace SerialDate

/-- The number of seconds in a day. -/
def daySeconds : Nat := 86400

/-- The fraction rounded to a whole number, a half upward. -/
def roundHalfUp (f : Fraction) : Nat := (2 * f.num + f.den) / (2 * f.den)

/-- How the time of day is computed. -/
inductive Precision where
  /-- In doubles, as the library does when it runs. -/
  | double
  /-- In exact numbers, which the doubles approximate. -/
  | exact
deriving DecidableEq, Repr

/-- A quotient as it comes out. -/
def Precision.quotient : Precision → Nat → Nat → Fraction
  | .double, num, den => Binary64.fraction (Binary64.nearestBits num den)
  | .exact, num, den => ⟨num, den⟩

/--
The serial date that a number of days denotes. In doubles the seconds of its time of day are rounded to a
double before they are rounded to a whole number.
-/
def ofFraction (f : Fraction) (precision : Precision := .double) : SerialDate where
  days := f.num / f.den
  seconds := roundHalfUp (precision.quotient (f.num % f.den * daySeconds) f.den)

/-- The serial date of a double, unless it is negative or no number. -/
def ofFloat? (x : Float) : Option SerialDate :=
  if !Binary64.isFinite x || (Binary64.isNegative x && Binary64.magnitudeBits x != 0) then none
  else some (ofFraction (Binary64.fraction (Binary64.magnitudeBits x)))

/-- The day 0 of a serial date, counted from the first of March of the year 0. -/
def epoch (system : DateSystem) (days : Nat) : Nat :=
  match system with
  | .from1904 => 695361
  | .from1900 => if days < 60 then 693900 else 693899

/-- The most days that a duration holds. -/
def maxDays : Nat := 106751991167

/-- The last year of the calendar. -/
def maxYear : Nat := 262142

/-- The day that a serial date falls on. -/
def date (system : DateSystem) (s : SerialDate) : Date :=
  Date.ofDays (epoch system s.days + s.days + s.seconds / daySeconds)

/-- The time of day of a serial date, as text. -/
def time (s : SerialDate) : String := timeText (s.seconds % daySeconds)

/--
A serial date as text: a day alone at midnight, a time alone on the day before the first of 1900, and
otherwise both. After the last year of the calendar there is none.
-/
def text? (system : DateSystem) (s : SerialDate) : Checked (Option String) :=
  if maxDays < s.days then .error .duration
  else
    let date := s.date system
    .ok <|
      if maxYear < date.year then none
      else if s.seconds = 0 then some date.text
      else if s.days = 0 ∧ system = .from1900 then some s.time
      else some (date.text ++ "T" ++ s.time)

/-- The text of the point in time that a number denotes, if it denotes one. -/
def textOf? (system : DateSystem) (x : Float) : Checked (Option String) :=
  match ofFloat? x with
  | none => .ok none
  | some s => s.text? system

end SerialDate

end Sheetwise
