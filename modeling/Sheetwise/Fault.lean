/-!
# Faults

A few computations have no answer on some of their inputs: a row number that leaves its range, the
columns from the fifth to the third, a day that no calendar reaches. Such a computation ends in a
fault, which is neither a value nor an error to report to the user: it says that the caller broke
what the computation takes for granted.
-/

namespace Sheetwise

/-- What a computation ran into. -/
inductive Fault where
  /-- A row, column or position leaves the 32 bits that hold it. -/
  | overflow
  /-- A stretch of columns ends before it begins. -/
  | invertedRange
  /-- A number of days is too large for a duration. -/
  | duration
  /-- A cut falls inside a character. -/
  | splitCharacter
deriving DecidableEq, Repr

/-- The result of a computation that may end in a fault. -/
abbrev Checked (α : Type) := Except Fault α

namespace Checked

variable {α : Type}

/-- The value of a computation that ends in no fault. -/
def value : (c : Checked α) → c.isOk = true → α
  | .ok a, _ => a

theorem eq_ok_value {c : Checked α} (h : c.isOk = true) : c = .ok (c.value h) := by
  cases c with
  | ok a => rfl
  | error fault => cases h

end Checked

namespace Word

/-- The largest number that 32 bits hold without a sign. -/
def max : Nat := 4294967295

/-- A sum of two words, if it is one. -/
def add (a b : Nat) : Checked Nat := if a + b ≤ max then .ok (a + b) else .error .overflow

/-- A difference of two words, if it is one. -/
def sub (a b : Nat) : Checked Nat := if b ≤ a then .ok (a - b) else .error .overflow

end Word

namespace Position

/-- The least position of 32 bits. -/
def min : Int := -2147483648

/-- The greatest position of 32 bits. -/
def max : Int := 2147483647

/-- A difference of two positions, if it is one. -/
def sub (a b : Int) : Checked Int :=
  if min ≤ a - b ∧ a - b ≤ max then .ok (a - b) else .error .overflow

end Position

end Sheetwise
