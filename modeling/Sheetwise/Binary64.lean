/-!
# Doubles as exact numbers

A double is a sign, a mantissa and a power of two, all to be had from its bits. What depends on its
exact value (whether it is whole, which integer it is cut to, which digits name it) is decided here
in integer arithmetic, where it can be reasoned about; only sums and products are left to the
machine.
-/

namespace Sheetwise

/-- A nonnegative fraction of natural numbers. -/
structure Fraction where
  num : Nat
  den : Nat

namespace Binary64

/-- The bits of a double, read as a number. -/
def bits (x : Float) : Nat := x.toBits.toNat

/-- Whether the sign bit is set. -/
def isNegative (x : Float) : Bool := bits x / Nat.pow 2 63 = 1

/-- The bits without the sign. -/
def magnitudeBits (x : Float) : Nat := bits x % Nat.pow 2 63

/-- The bits that stand for infinity. -/
def infinityBits : Nat := 2047 * Nat.pow 2 52

/-- Whether a double is a number, neither infinite nor undefined. -/
def isFinite (x : Float) : Bool := decide (magnitudeBits x < infinityBits)

/-- Whether a double is undefined. -/
def isNaN (x : Float) : Bool := decide (infinityBits < magnitudeBits x)

/-- The mantissa of the magnitude with these bits. -/
def mantissa (bits : Nat) : Nat :=
  bits % Nat.pow 2 52 + (if bits / Nat.pow 2 52 = 0 then 0 else Nat.pow 2 52)

/-- The power of two that scales the mantissa of the magnitude with these bits. -/
def exponent (bits : Nat) : Int :=
  (if bits / Nat.pow 2 52 = 0 then 1 else ((bits / Nat.pow 2 52 : Nat) : Int)) - 1075

/-- The magnitude with these bits as a fraction. -/
def fraction (bits : Nat) : Fraction :=
  if 0 ≤ exponent bits then ⟨mantissa bits * Nat.pow 2 (exponent bits).toNat, 1⟩
  else ⟨mantissa bits, Nat.pow 2 (-exponent bits).toNat⟩

/-- The integer with a sign and a magnitude. -/
def signed (negative : Bool) (n : Nat) : Int := if negative then -(n : Int) else n

/-- The integer that a double is cut to toward zero; infinite and undefined ones are cut to zero. -/
def truncate (x : Float) : Int :=
  if isFinite x then
    let f := fraction (magnitudeBits x)
    signed (isNegative x) (f.num / f.den)
  else 0

/-- Whether a double is a whole number. -/
def isWhole (x : Float) : Bool :=
  isFinite x && (let f := fraction (magnitudeBits x); f.num % f.den == 0)

/--
The integer from `lo` to `hi` that a double is cut to: toward zero, and to the nearer bound when that
leaves the range. What is no number is cut to zero.
-/
def clamp (lo hi : Int) (x : Float) : Int :=
  if isNaN x then 0
  else if isFinite x then max lo (min hi (truncate x))
  else if isNegative x then lo
  else hi

/--
The bits of the double nearest to `num / den`, a tie going to the even neighbour. A value beyond
the largest double gives the bits of infinity.
-/
def nearestBits (num den : Nat) : Nat :=
  if num = 0 ∨ den = 0 then 0
  else
    -- the quotient at exponent `e`, with what the division leaves
    let quotient (e : Int) : Nat × Nat × Nat :=
      if 0 ≤ e then
        let d := den * Nat.pow 2 e.toNat
        (num / d, num % d, d)
      else
        let n := num * Nat.pow 2 (-e).toNat
        (n / den, n % den, den)
    let guess : Int := max ((num.log2 : Int) - (den.log2 : Int) - 53) (-1074)
    let e : Int := if (quotient guess).1 < Nat.pow 2 53 then guess else guess + 1
    let (q, r, d) := quotient e
    let q := if 2 * r > d ∨ (2 * r = d ∧ q % 2 = 1) then q + 1 else q
    if q < Nat.pow 2 52 then q
    else min ((e + 1075).toNat * Nat.pow 2 52 + (q - Nat.pow 2 52)) infinityBits

/-- The double nearest to `num / den`, negated if `negative` is set. -/
def nearest (negative : Bool) (num den : Nat) : Float :=
  let bits := nearestBits num den
  Float.ofBits (UInt64.ofNat (if negative then bits + Nat.pow 2 63 else bits))

/-- What a finite double leaves when divided by `n` toward zero, with the sign of the double. -/
def remainder (x : Float) (n : Nat) : Float :=
  if isFinite x then
    let f := fraction (magnitudeBits x)
    nearest (isNegative x) (f.num % (n * f.den)) f.den
  else 0.0 / 0.0

/-- The double nearest to an integer. -/
def ofInt (n : Int) : Float := nearest (decide (n < 0)) n.natAbs 1

end Binary64

end Sheetwise
