import Sheetwise.Text.Numeral

/-!
# Shortest decimals

A double is written with the fewest digits that read back as the same double, and among those with
the digits nearest to its value. Everything is exact arithmetic on natural numbers: the double is
taken apart into a mantissa and a power of two, and a candidate counts if `Binary64.nearestBits` gives the
same bits.
-/

namespace Sheetwise.Text

/-- The fraction divided by a power of ten, which may be negative. -/
def scale (x : Fraction) (exponent : Int) : Fraction :=
  if 0 ≤ exponent then ⟨x.num, x.den * Nat.pow 10 exponent.toNat⟩
  else ⟨x.num * Nat.pow 10 (-exponent).toNat, x.den⟩

/-- The bits that `mantissa * 10 ^ exponent` reads back as. -/
def decimalBits (mantissa : Nat) (exponent : Int) : Nat :=
  if 0 ≤ exponent then Binary64.nearestBits (mantissa * Nat.pow 10 exponent.toNat) 1
  else Binary64.nearestBits mantissa (Nat.pow 10 (-exponent).toNat)

/--
The nearer of the two neighbours of `x` among the multiples of `10 ^ exponent` that read back as
`bits`, if one does. A tie goes to the greater neighbour.
-/
def readingBack? (bits : Nat) (x : Fraction) (exponent : Int) : Option Nat :=
  let scaled := scale x exponent
  let below := scaled.num / scaled.den
  let rest := scaled.num % scaled.den
  let back (d : Nat) := decimalBits d exponent = bits
  let first := if scaled.den ≤ 2 * rest then below + 1 else below
  let second := if first = below then below + 1 else below
  if back first then some first
  else if rest ≠ 0 ∧ back second then some second
  else none

/-- The greatest exponent `k` with `10 ^ k ≤ x`, searched downward from `e` for a few steps. -/
def magnitude (x : Fraction) : Nat → Int → Int
  | 0, e => e
  | fuel + 1, e =>
    let scaled := scale x e
    if scaled.den ≤ scaled.num then e else magnitude x fuel (e - 1)

/-- Digits and exponent of a positive double, as few digits as read back. -/
def shortestDigits (bits : Nat) : Nat × Int :=
  let x := Binary64.fraction bits
  -- a binary digit is worth a little less than 0.30104 decimal ones
  let above := ((x.num.log2 : Int) - (x.den.log2 : Int) + 1) * 30104 / 100000 + 1
  let e := magnitude x 8 above
  let grids : List Int := (List.range 17).map fun (n : Nat) => e - (n : Int)
  match grids.findSome? fun g => (readingBack? bits x g).map fun d => (d, g) with
  | some found => found
  | none => (0, 0)

/-- Digits with trailing zeros removed, each of them moved into the exponent. -/
def dropZeros : Nat → Nat → Int → Nat × Int
  | 0, d, e => (d, e)
  | fuel + 1, d, e => if d ≠ 0 ∧ d % 10 = 0 then dropZeros fuel (d / 10) (e + 1) else (d, e)

/-- The decimal digits of a number. -/
def digitsOf (n : Nat) : List Char :=
  Nat.toDigits 10 n

/-- Digits and exponent written out in full, never with an exponent of their own. -/
def positional (d : Nat) (e : Int) : List Char :=
  let ds := digitsOf d
  if 0 ≤ e then ds ++ List.replicate e.toNat '0'
  else
    let places := (-e).toNat
    if places < ds.length then ds.take (ds.length - places) ++ '.' :: ds.drop (ds.length - places)
    else ['0', '.'] ++ List.replicate (places - ds.length) '0' ++ ds

/--
A double as text: the shortest digits that read back, written out in full, with no point on whole
numbers. The sign of zero is kept.
-/
def ofFloat (x : Float) : String :=
  if Binary64.isNaN x then "NaN"
  else
    let magnitude := Binary64.magnitudeBits x
    let body :=
      if magnitude = Binary64.infinityBits then "inf".toList
      else if magnitude = 0 then ['0']
      else
        let (d, e) := shortestDigits magnitude
        let (d, e) := dropZeros 20 d e
        positional d e
    String.ofList (if Binary64.isNegative x then '-' :: body else body)

/-- An integer as text. -/
def ofInt (n : Int) : String :=
  String.ofList (if n < 0 then '-' :: digitsOf n.natAbs else digitsOf n.natAbs)

/-- A natural number as text. -/
def ofNat (n : Nat) : String :=
  String.ofList (digitsOf n)

end Sheetwise.Text
