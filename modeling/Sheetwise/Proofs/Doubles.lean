import Sheetwise.Quantity

/-!
# The order of doubles

Doubles are compared by sign, then by exponent, then by mantissa, except that the two zeros are equal
and that what is no number is not comparable to anything. Whoever computes with them can count on few
laws, but on this one: the comparison is transitive.
-/

namespace Sheetwise.Binary64

open Float.Model (UnpackedFloat)

/-- Where a double that is a number stands among the others. -/
def rank : UnpackedFloat → Option (Int × Int × Int)
  | .notANumber => none
  | .infinity .negative => some (-2, 0, 0)
  | .finite .negative mantissa exponent _ => some (-1, -exponent, -mantissa)
  | .zero _ => some (0, 0, 0)
  | .finite .positive mantissa exponent _ => some (1, exponent, mantissa)
  | .infinity .positive => some (2, 0, 0)

/-- One place is not behind another: the first numbers decide, then the second, then the third. -/
def NotBehind (i j : Int × Int × Int) : Prop :=
  i.1 < j.1 ∨ i.1 = j.1 ∧ (i.2.1 < j.2.1 ∨ i.2.1 = j.2.1 ∧ i.2.2 ≤ j.2.2)

instance (i j : Int × Int × Int) : Decidable (NotBehind i j) :=
  inferInstanceAs (Decidable (_ ∨ _ ∧ (_ ∨ _ ∧ _)))

theorem NotBehind.trans {i j k : Int × Int × Int} (h : NotBehind i j) (h' : NotBehind j k) :
    NotBehind i k := by
  unfold NotBehind at *
  omega

theorem isLE_compare_then {e e' : Int} {m m' : Nat} :
    ((compare e e').then (compare m m')).isLE = true ↔ e < e' ∨ e = e' ∧ m ≤ m' := by
  rw [Ordering.isLE_then_iff_or, Int.compare_eq_lt, Int.compare_eq_eq, Nat.isLE_compare]

theorem isGE_compare_then {e e' : Int} {m m' : Nat} :
    ((compare e e').then (compare m m')).isGE = true ↔ e' < e ∨ e = e' ∧ m' ≤ m := by
  rw [← Ordering.isLE_swap, Ordering.swap_then, Int.compare_swap, Nat.compare_swap,
    isLE_compare_then, eq_comm (a := e)]

variable {x y : UnpackedFloat} {i j : Int × Int × Int}

/-- Two doubles that are numbers are compared by where they stand. -/
theorem le_iff_of_rank (hx : rank x = some i) (hy : rank y = some j)
    (h : x.le y = true ↔ NotBehind i j) :
    x.le y = true ↔ ∃ i ∈ rank x, ∃ j ∈ rank y, NotBehind i j := by
  rw [h, hx, hy]
  constructor
  · exact fun hij => ⟨i, rfl, j, rfl, hij⟩
  · rintro ⟨i', hi, j', hj, hij⟩
    obtain rfl := Option.some.inj hi
    obtain rfl := Option.some.inj hj
    exact hij

theorem not_le_of_rank (hle : x.le y = false) (h : rank x = none ∨ rank y = none) :
    x.le y = true ↔ ∃ i ∈ rank x, ∃ j ∈ rank y, NotBehind i j := by
  refine iff_of_false (Bool.eq_false_iff.mp hle) ?_
  rintro ⟨i, hi, j, hj, -⟩
  rcases h with h | h
  · rw [h] at hi
    cases hi
  · rw [h] at hj
    cases hj

theorem iff_of_eq_decide {b : Bool} {p : Prop} [Decidable p] (h : b = decide p) : b = true ↔ p := by
  rw [h, decide_eq_true_iff]

theorem le_iff_notBehind : x.le y = true ↔ ∃ i ∈ rank x, ∃ j ∈ rank y, NotBehind i j := by
  rcases x with (_ | _) | _ | _ | ⟨_ | _, m, e, hm⟩ <;>
    rcases y with (_ | _) | _ | _ | ⟨_ | _, m', e', hm'⟩
  -- numbers of one sign are compared by exponent and mantissa
  case finite.negative.finite.negative =>
    refine le_iff_of_rank rfl rfl ?_
    show ((compare e e').then (compare m m')).swap.isLE = true ↔ _
    rw [Ordering.isLE_swap, isGE_compare_then, NotBehind]
    dsimp only
    omega
  case finite.positive.finite.positive =>
    refine le_iff_of_rank rfl rfl ?_
    show ((compare e e').then (compare m m')).isLE = true ↔ _
    rw [isLE_compare_then, NotBehind]
    dsimp only
    omega
  -- all others by what they are alone
  all_goals first
    | exact le_iff_of_rank rfl rfl (iff_of_eq_decide rfl)
    | exact not_le_of_rank rfl (Or.inl rfl)
    | exact not_le_of_rank rfl (Or.inr rfl)

theorem float_le_iff {a b : Float} : a ≤ b
    ↔ ∃ i ∈ rank a.toModel.unpack, ∃ j ∈ rank b.toModel.unpack, NotBehind i j := by
  have hle : a ≤ b ↔ a.toModel.unpack.le b.toModel.unpack = true := decide_eq_true_iff
  rw [hle, le_iff_notBehind]

theorem le_trans {a b c : Float} (h : a ≤ b) (h' : b ≤ c) : a ≤ c := by
  rw [float_le_iff] at *
  obtain ⟨i, hi, j, hj, hij⟩ := h
  obtain ⟨j', hj', k, hk, hjk⟩ := h'
  obtain rfl := Option.mem_unique hj hj'
  exact ⟨i, hi, k, hk, hij.trans hjk⟩

end Sheetwise.Binary64
