import LooseEquality.Decimal
import LooseEquality.Proofs.Binary64.Rounding

/-!
# Rounding decimals

A decimal is rounded by way of the fraction that it is, with a power of ten above or below the line.
That power is formed only if it has to be, and these are the two places where a decimal is given a
real without rounding anything: a number so large that it is infinite, and one so small that it is
zero.  Both are shown to be what rounding would have made of the number
(`scaledUp_eq`, `scaledDown_eq`).

**`isRounded_toBinary64`** says that a decimal is rounded, whatever its coefficient and exponent.
-/

namespace LooseEquality

namespace Decimal

/-- The number that a decimal denotes. -/
def value (d : Decimal) : ℚ :=
  Binary64.signOf d.negative * (d.coefficient * 10 ^ d.exponent)

lemma tenTo_eq (power : ℕ) : tenTo power = 10 ^ power := rfl

/-- Powers of ten outgrow those of eight. -/
lemma two_pow_le_tenTo (power : ℕ) : 2 ^ (3 * power) ≤ tenTo power := by
  rw [tenTo_eq, pow_mul]
  exact Nat.pow_le_pow_left (by decide) power

end Decimal

namespace Binary64

lemma nearestMagnitude_zero (den : ℕ) : nearestMagnitude 0 den = 0 := by
  simp [nearestMagnitude, roundDiv]

lemma overflowBound_le : overflowBound ≤ 2 ^ 1024 := by
  have h : (0 : ℚ) ≤ 2 ^ 970 := by positivity
  rw [overflowBound]
  exact sub_le_self _ h

end Binary64

namespace Decimal

open Binary64

/-- Leaving out the power of ten makes no difference to a large number. -/
lemma scaledUp_eq (coefficient power : ℕ) :
    scaledUp coefficient power = nearestMagnitude (coefficient * tenTo power) 1 := by
  rw [scaledUp]
  split_ifs with hzero hlarge
  · rw [hzero, Nat.zero_mul, nearestMagnitude_zero]
  · refine ((nearestMagnitude_eq_infinity_iff _ Nat.one_pos).2 ?_).symm
    have hnat : 2 ^ (coefficient.log2 + 3 * power) ≤ coefficient * tenTo power := by
      rw [pow_add]
      exact Nat.mul_le_mul (Nat.log2_self_le hzero) (two_pow_le_tenTo power)
    have hcast : (2 : ℚ) ^ (coefficient.log2 + 3 * power) ≤ (coefficient * tenTo power : ℕ) := by
      exact_mod_cast hnat
    rw [Nat.cast_one, div_one]
    calc overflowBound ≤ 2 ^ 1024 := overflowBound_le
      _ ≤ 2 ^ (coefficient.log2 + 3 * power) := pow_le_pow_right₀ (by norm_num) (by omega)
      _ ≤ _ := hcast
  · rfl

/-- Nor does it to a small one. -/
lemma scaledDown_eq (coefficient power : ℕ) :
    scaledDown coefficient power = nearestMagnitude coefficient (tenTo power) := by
  rw [scaledDown]
  split_ifs with hsmall
  · have hpos : 0 < tenTo power := by rw [tenTo_eq]; positivity
    refine ((nearestMagnitude_eq_zero_iff _ hpos).2 ?_).symm
    have hlt : coefficient * 2 ^ 1075 ≤ tenTo power :=
      calc coefficient * 2 ^ 1075 ≤ 2 ^ (coefficient.log2 + 1) * 2 ^ 1075 :=
            Nat.mul_le_mul_right _ Nat.lt_log2_self.le
        _ = 2 ^ (coefficient.log2 + 1 + 1075) := (pow_add _ _ _).symm
        _ ≤ 2 ^ (3 * power) := Nat.pow_le_pow_right Nat.two_pos (by omega)
        _ ≤ tenTo power := two_pow_le_tenTo power
    have hcast : ((coefficient * 2 ^ 1075 : ℕ) : ℚ) ≤ tenTo power := Nat.cast_le.2 hlt
    rw [Nat.cast_mul, Nat.cast_pow, Nat.cast_ofNat, pow_succ] at hcast
    rw [div_mul_eq_mul_div, div_le_iff₀ (Nat.cast_pos.2 hpos), unitsPerOne_eq_pow]
    generalize (2 : ℚ) ^ 1074 = u at hcast ⊢
    linarith
  · rfl

theorem isRounded_toBinary64 (d : Decimal) : d.toBinary64.IsRounded d.negative d.value := by
  obtain ⟨negative, coefficient, exponent⟩ := d
  rw [toBinary64, value]
  cases exponent with
  | ofNat power =>
    have h := isRounded_nearest negative (coefficient * tenTo power) Nat.one_pos
    simp only [scaledUp_eq, Int.ofNat_eq_natCast, zpow_natCast]
    rw [nearest, Nat.cast_one, div_one, Nat.cast_mul, tenTo_eq, Nat.cast_pow, Nat.cast_ofNat] at h
    exact h
  | negSucc power =>
    have hpos : 0 < tenTo (power + 1) := by rw [tenTo_eq]; positivity
    have h := isRounded_nearest negative coefficient hpos
    simp only [scaledDown_eq, zpow_negSucc]
    rw [nearest, div_eq_mul_inv, tenTo_eq, Nat.cast_pow, Nat.cast_ofNat] at h
    exact h

end Decimal
end LooseEquality
