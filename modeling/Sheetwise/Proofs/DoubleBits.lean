import Mathlib
import Sheetwise.Binary64

/-!
# Doubles and their bits

A double is kept as 64 bits, and its operations are defined on what the bits stand for. The library
looks at the bits itself, so the two readings have to be the same one: the sign in the first bit, then
an exponent, then a mantissa whose leading one is left out.

Bits are kept as they are unless they are undefined, for which there is only one spelling. Of the
operations, only so much is needed here: products and sums of what has no sign have none.
-/

namespace Sheetwise.Binary64

open Float.Model (Format UnpackedFloat)
open Float.Model.UnpackedFloat (Sign unpackMantissa unpackExponent unpackSign packComponents)

/-! ## Bits -/

section Bits

variable (b : BitVec 64)

theorem toNat_unpackMantissa : (@unpackMantissa .binary64 b).toNat = b.toNat % 2 ^ 52 := by
  unfold unpackMantissa
  simp

theorem toNat_unpackExponent :
    (@unpackExponent .binary64 b).toNat = b.toNat / 2 ^ 52 % 2 ^ 11 := by
  unfold unpackExponent
  simp [Nat.shiftRight_eq_div_pow]

theorem toNat_unpackSign : (@unpackSign .binary64 b).toNat = b.toNat / 2 ^ 63 := by
  have hlt : b.toNat < 2 ^ 64 := b.isLt
  unfold unpackSign
  simp [Nat.shiftRight_eq_div_pow]
  omega

/-- The sign that the first bit stands for. -/
def signOf (bits : Nat) : Sign := if bits / 2 ^ 63 = 1 then .negative else .positive

theorem mantissa_eq (bits : Nat) :
    mantissa bits = bits % 2 ^ 52 + if bits / 2 ^ 52 = 0 then 0 else 2 ^ 52 := rfl

theorem exponent_eq (bits : Nat) :
    exponent bits = (if bits / 2 ^ 52 = 0 then 1 else ((bits / 2 ^ 52 : Nat) : Int)) - 1075 := rfl

theorem infinityBits_eq : infinityBits = 2047 * 2 ^ 52 := rfl

/-- What the bits of a double stand for. -/
inductive Means (bits : Nat) : UnpackedFloat → Prop
  | notANumber (h : infinityBits < bits % 2 ^ 63) : Means bits .notANumber
  | infinity (h : bits % 2 ^ 63 = infinityBits) : Means bits (.infinity (signOf bits))
  | zero (h : bits % 2 ^ 63 = 0) : Means bits (.zero (signOf bits))
  | finite {m : Nat} {e : Int} (hpos : 0 < m) (h : bits % 2 ^ 63 < infinityBits)
      (hm : m = mantissa (bits % 2 ^ 63)) (he : e = exponent (bits % 2 ^ 63)) :
      Means bits (.finite (signOf bits) m e hpos)

theorem ofBitVec_unpackSign : Sign.ofBitVec (@unpackSign .binary64 b) = signOf b.toNat := by
  have hlt : b.toNat < 2 ^ 64 := b.isLt
  have hsign := toNat_unpackSign b
  unfold Sign.ofBitVec signOf
  by_cases h : @unpackSign .binary64 b = 0#1
  · rw [h] at hsign
    rw [if_pos h, if_neg (by rw [← hsign]; decide)]
  · have hne : (@unpackSign .binary64 b).toNat ≠ 0 := fun h0 => h (BitVec.eq_of_toNat_eq h0)
    rw [if_neg h, if_pos (by omega)]

theorem toNat_append_one (m : BitVec 52) : (1#1 ++ m).toNat = 2 ^ 52 + m.toNat := by
  rw [BitVec.toNat_append, ← Nat.shiftLeft_add_eq_or_of_lt m.isLt]
  rfl

/-- Behind the sign are an exponent of 11 bits and a mantissa of 52. -/
theorem toNat_mod_sign : b.toNat % 2 ^ 63
    = (@unpackExponent .binary64 b).toNat * 2 ^ 52 + (@unpackMantissa .binary64 b).toNat := by
  rw [toNat_unpackExponent, toNat_unpackMantissa]
  omega

theorem means_unpack : Means b.toNat (UnpackedFloat.unpack .binary64 b) := by
  have hinf := infinityBits_eq
  have hmag := toNat_mod_sign b
  unfold UnpackedFloat.unpack
  dsimp only
  rw [ofBitVec_unpackSign]
  generalize @unpackExponent .binary64 b = e at *
  have hm : (@unpackMantissa .binary64 b).toNat < 2 ^ 52 := BitVec.isLt _
  have he : e.toNat < 2 ^ 11 := e.isLt
  have hlast : e = -1#11 ↔ e.toNat = 2047 := BitVec.toNat_inj.symm
  have hfirst : e = 0#11 ↔ e.toNat = 0 := BitVec.toNat_inj.symm
  have hzero : @unpackMantissa .binary64 b = 0#52 ↔ (@unpackMantissa .binary64 b).toNat = 0 :=
    BitVec.toNat_inj.symm
  split
  · next h =>
    -- the last exponent is not that of a number
    rw [hlast] at h
    split
    · next h0 =>
      rw [hzero] at h0
      exact .infinity (by omega)
    · next h0 =>
      rw [hzero] at h0
      exact .notANumber (by omega)
  · next h =>
    rw [hlast] at h
    split
    · next h' =>
      -- with the first exponent there is no leading one
      rw [hfirst] at h'
      split
      · next h0 =>
        rw [hzero] at h0
        exact .zero (by omega)
      · next h0 =>
        rw [hzero] at h0
        refine .finite _ (by omega) ?_ ?_
        · rw [mantissa_eq, if_pos (by omega)]
          omega
        · rw [exponent_eq, if_pos (by omega), h']
          rfl
    · next h' =>
      rw [hfirst] at h'
      refine .finite _ (by omega) ?_ ?_
      · rw [mantissa_eq, if_neg (by omega), toNat_append_one]
        omega
      · have hbias : (Format.binary64.exponentBias : Int) = 1023 := rfl
        rw [exponent_eq, if_neg (by omega), hbias]
        omega

end Bits

theorem means_bits (x : Float) : Means (bits x) x.toModel.unpack := means_unpack x.toBits.toBitVec

theorem bits_ofBits {n : Nat} (hn : n < 2 ^ 64) (h : n % 2 ^ 63 ≤ infinityBits) :
    bits (Float.ofBits (UInt64.ofNat n)) = n := by
  have hnat : (UInt64.ofNat n).toBitVec.toNat = n := Nat.mod_eq_of_lt hn
  have hmag := toNat_mod_sign (UInt64.ofNat n).toBitVec
  have hinf := infinityBits_eq
  have hvalid : Format.binary64.Valid (UInt64.ofNat n).toBitVec := by
    refine ⟨fun hlast hmantissa => ?_⟩
    have hne : (@unpackMantissa .binary64 (UInt64.ofNat n).toBitVec).toNat ≠ 0 :=
      fun h0 => hmantissa (BitVec.eq_of_toNat_eq h0)
    have hexp : (@unpackExponent .binary64 (UInt64.ofNat n).toBitVec).toNat = 2047 :=
      BitVec.toNat_inj.mpr hlast
    rw [hnat] at hmag
    omega
  show (UnpackedFloat.pack .binary64 (UnpackedFloat.unpack .binary64 _)).toNat = n
  rw [UnpackedFloat.pack_unpack_of_valid hvalid, hnat]

/-! ## Signs -/

/-- Whether there is no minus sign. -/
def Unsigned : UnpackedFloat → Prop
  | .notANumber => True
  | .infinity s => s = .positive
  | .zero s => s = .positive
  | .finite s _ _ _ => s = .positive

theorem isNegative_iff {x : Float} : isNegative x = true ↔ bits x / 2 ^ 63 = 1 := decide_eq_true_iff

theorem isNegative_eq_false_iff {x : Float} : isNegative x = false ↔ bits x < 2 ^ 63 := by
  have hlt : bits x < 2 ^ 64 := x.toBits.toBitVec.isLt
  rw [Bool.eq_false_iff, ne_eq, isNegative_iff]
  omega

theorem unsigned_unpack {x : Float} (h : isNegative x = false) : Unsigned x.toModel.unpack := by
  have hsign : signOf (bits x) = .positive := by
    rw [isNegative_eq_false_iff] at h
    exact if_neg (by omega)
  have hmeans := means_bits x
  generalize x.toModel.unpack = u at hmeans
  cases hmeans with
  | notANumber _ => trivial
  | infinity _ => exact hsign
  | zero _ => exact hsign
  | finite _ _ _ _ => exact hsign

theorem isNegative_pack {u : UnpackedFloat} (h : Unsigned u) :
    isNegative ⟨.pack u⟩ = false := by
  have hparts (e : BitVec 11) (m : BitVec 52) :
      (packComponents .binary64 .positive e m).toNat < 2 ^ 63 := by
    have hsign := toNat_unpackSign (packComponents .binary64 .positive e m)
    rw [UnpackedFloat.unpackSign_packComponents] at hsign
    have hzero : (Sign.toBitVec .positive).toNat = 0 := rfl
    omega
  rw [isNegative_eq_false_iff]
  show (UnpackedFloat.pack .binary64 u).toNat < 2 ^ 63
  unfold UnpackedFloat.pack
  cases u with
  | notANumber => exact hparts _ _
  | infinity s =>
      cases h
      exact hparts _ _
  | zero s =>
      cases h
      exact hparts _ _
  | finite s m e hpos =>
      cases h
      dsimp only
      split
      · exact hparts _ _
      · split <;> exact hparts _ _

theorem unsigned_mul {u v : UnpackedFloat} (hu : Unsigned u) (hv : Unsigned v) :
    Unsigned (UnpackedFloat.mul .binary64 u v) := by
  cases u with
  | notANumber => trivial
  | infinity s =>
      cases hu
      cases v with
      | notANumber => trivial
      | infinity s' =>
          cases hv
          rfl
      | zero s' => trivial
      | finite s' m' e' hpos' =>
          cases hv
          rfl
  | zero s =>
      cases hu
      cases v with
      | notANumber => trivial
      | infinity s' => trivial
      | zero s' =>
          cases hv
          rfl
      | finite s' m' e' hpos' =>
          cases hv
          rfl
  | finite s m e hpos =>
      cases hu
      cases v with
      | notANumber => trivial
      | infinity s' =>
          cases hv
          rfl
      | zero s' =>
          cases hv
          rfl
      | finite s' m' e' hpos' =>
          cases hv
          -- rounding may lead to infinity, but the sign is kept
          show Unsigned (UnpackedFloat.roundWithAccuracy .binary64 .positive _ _ _)
          unfold UnpackedFloat.roundWithAccuracy
          dsimp only
          split <;> rfl

theorem isNegative_mul {x y : Float} (hx : isNegative x = false) (hy : isNegative y = false) :
    isNegative (x * y) = false :=
  isNegative_pack (unsigned_mul (unsigned_unpack hx) (unsigned_unpack hy))

theorem unpack_of_magnitude_zero {x : Float} (h : bits x % 2 ^ 63 = 0) :
    x.toModel.unpack = .zero (signOf (bits x)) := by
  have hmeans := means_bits x
  generalize x.toModel.unpack = u at hmeans
  cases hmeans with
  | notANumber h' => omega
  | infinity h' =>
      have hinf := infinityBits_eq
      omega
  | zero _ => rfl
  | finite hpos h' hm he =>
      rw [h] at hm
      subst hm
      exact absurd hpos (by decide)

theorem unpack_zero : (0 : Float).toModel.unpack = .zero .positive :=
  unpack_of_magnitude_zero (by decide +kernel)

theorem unpack_minus_zero : (-0 : Float).toModel.unpack = .zero .negative :=
  unpack_of_magnitude_zero (by decide +kernel)

/-- Adding minus zero changes nothing, but that minus zero becomes zero beside zero. -/
theorem isNegative_add_minus_zero {x : Float} (hx : isNegative x = false) :
    isNegative (x + -0) = false := by
  have hadd : x + -0 = ⟨.pack (UnpackedFloat.add .binary64 x.toModel.unpack
      (-0 : Float).toModel.unpack)⟩ := rfl
  rw [hadd, unpack_minus_zero]
  refine isNegative_pack ?_
  have hu := unsigned_unpack hx
  generalize x.toModel.unpack = u at hu
  cases u with
  | notANumber => trivial
  | infinity s => exact hu
  | zero s => cases hu; rfl
  | finite s m e hpos => exact hu

end Sheetwise.Binary64
