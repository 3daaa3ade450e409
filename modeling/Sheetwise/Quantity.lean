import Sheetwise.Binary64
import Sheetwise.Fault

/-!
# Quantities

Lengths and shares are computed in doubles when the library runs. The definitions that do so are
given for any type with the operations below, so that the same definitions can be read in exact
numbers, where they say what the doubles approximate.
-/

namespace Sheetwise

/-- A type of numbers to measure with. -/
class Quantity (α : Type) extends Add α, Sub α, Mul α, Div α, Neg α, Zero α, LE α where
  /-- A whole number. -/
  ofInt : Int → α
  /-- A fraction. -/
  ofRatio : Nat → Nat → α
  /-- The position of 32 bits that a quantity is cut to, toward zero. -/
  toPosition : α → Int
  decidableLe : DecidableLE α

attribute [reducible, instance] Quantity.decidableLe

instance : Quantity Float where
  zero := 0
  ofInt := Binary64.ofInt
  ofRatio := Binary64.nearest false
  toPosition := Binary64.clamp Position.min Position.max
  decidableLe := inferInstance

end Sheetwise
