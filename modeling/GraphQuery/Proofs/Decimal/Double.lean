import GraphQuery.Decimal.Double
import Mathlib.Algebra.Group.Nat.Defs

/-! Whole numbers of 64 bits are far from the largest double, and so are their products. -/

set_option autoImplicit false

namespace GraphQuery.Double

theorem floorLog2_le (num den : Nat) : floorLog2 num den ≤ num.log2 := by
  unfold floorLog2
  dsimp only
  split <;> omega

theorem exponent_ofFraction_le (num den : Nat) : (ofFraction num den).exponent ≤ num.log2 := by
  have := floorLog2_le num den
  unfold ofFraction minExponent
  split
  · exact Int.natCast_nonneg _
  · dsimp only
    split <;> dsimp only <;> omega

theorem floorLog2_one {n : Nat} (positive : n ≠ 0) : floorLog2 n 1 = n.log2 := by
  have fits : 2 ^ n.log2 ≤ n := Nat.log2_self_le positive
  have one : (1 : Nat).log2 = 0 := by decide
  simp [floorLog2, overPower, one, fits]

theorem nearestEven_le (num den : Nat) : nearestEven num den ≤ num + 1 := by
  have := Nat.div_le_self num den
  have := Nat.mod_lt (num / den) (show 0 < 2 by decide)
  unfold nearestEven
  dsimp only
  split
  · omega
  · split <;> omega

theorem fraction_ofNat_lt {n : Nat} (small : n < 2 ^ 64) : (ofNat n).fraction.1 < 2 ^ 128 := by
  unfold ofNat ofFraction
  split
  · decide
  · next positive =>
    have log := floorLog2_one positive
    have : n.log2 < 64 := (Nat.log2_lt positive).mpr small
    -- Within 64 bits the exponent stays small, and a shift goes over it by one at most.
    have bounds : max (floorLog2 n 1 - 52) minExponent ≤ 11 ∧
        -52 ≤ max (floorLog2 n 1 - 52) minExponent := by
      unfold minExponent
      omega
    generalize max (floorLog2 n 1 - 52) minExponent = exponent at bounds
    have powers : ∀ (bound : Nat) {e : Int}, e.toNat ≤ bound → Nat.pow 2 e.toNat ≤ 2 ^ bound :=
      fun _ _ => Nat.pow_le_pow_right (by decide)
    have scaled : n * Nat.pow 2 (-exponent).toNat ≤ 2 ^ 64 * 2 ^ 52 :=
      Nat.mul_le_mul (Nat.le_of_lt small) (powers _ (by omega))
    have mantissa := nearestEven_le (n * Nat.pow 2 (-exponent).toNat) (1 * Nat.pow 2 exponent.toNat)
    dsimp only [overPower]
    split
    · have : Nat.pow 2 52 * Nat.pow 2 (exponent + 1).toNat ≤ 2 ^ 52 * 2 ^ 12 :=
        Nat.mul_le_mul (Nat.le_refl _) (powers _ (by omega))
      exact Nat.lt_of_le_of_lt this (by decide)
    · refine Nat.lt_of_le_of_lt (Nat.mul_le_mul (Nat.le_trans mantissa ?_) (powers 11 ?_))
        (show (2 ^ 116 + 1) * 2 ^ 11 < 2 ^ 128 by decide)
      · omega
      · exact Int.toNat_le.mpr bounds.1

theorem isFinite_mul {x y : Double} (small : x.fraction.1 < 2 ^ 128)
    (small' : y.fraction.1 < 2 ^ 128) : (x.mul y).isFinite = true := by
  have exponent := exponent_ofFraction_le (x.fraction.1 * y.fraction.1) (x.fraction.2 * y.fraction.2)
  have product : x.fraction.1 * y.fraction.1 < 2 ^ 256 := by
    rw [show 256 = 128 + 128 from rfl, Nat.pow_add]
    exact Nat.mul_lt_mul'' small small'
  have : (x.fraction.1 * y.fraction.1).log2 < 256 := by
    by_cases zero : x.fraction.1 * y.fraction.1 = 0
    · rw [zero]
      decide
    · exact (Nat.log2_lt zero).mpr product
  unfold isFinite mul maxExponent
  rw [decide_eq_true_eq]
  omega

end GraphQuery.Double
