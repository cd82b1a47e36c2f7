import LooseEquality.Proofs.Binary64.Integer
import Mathlib.Data.Nat.MaxPowDiv
import Mathlib.Data.Nat.Prime.Basic

/-!
# Integers that are reals

A finite real has 53 bits and a power of two.  So an integer is a real if 53 bits are enough for it
once all factors of two are taken out, and if it is not too large altogether.

* `Binary64.IsExact` — there is a real that is the integer.

**`isExact_iff`** is the criterion.  One way, doubling an integer of 53 bits adds to its exponent
and leaves the rest alone (`exists_unitsAt_eq_mul_pow`); the other way, what is left of an integer
without its factors of two divides the significand.  **`equalsInt_iff_isExact`** says what it is
good for: an integer that is rounded to a real still equals it exactly if it is one.
-/

namespace LooseEquality
namespace Binary64

/-- There is a real that is the integer. -/
def IsExact (i : ℤ) : Prop := ∃ x : Binary64, x.isFinite = true ∧ x.value = i

lemma two_mul_exponentWeight : 2 * exponentWeight = 2 ^ 53 := by decide

/-- An exponent that is a variable is never written out. -/
lemma two_pow_lt_two_pow {d : ℕ} (e : ℕ) (h : d < e) : 2 ^ d < 2 ^ e :=
  Nat.pow_lt_pow_right Nat.one_lt_two h

lemma unitsAt_infinity_eq_mul : unitsAt infinity = 2 ^ 1024 * unitsPerOne := by
  rw [unitsAt_infinity, two_mul_exponentWeight, unitsPerOne_eq, ← pow_add, ← pow_add]

/-- An integer of at most 53 bits can be doubled as long as it is in range. -/
lemma exists_unitsAt_eq_mul_pow {m j : ℕ} (hm : m < 2 * exponentWeight)
    (hrange : m * 2 ^ j < 2 ^ 1024) :
    ∃ k, k < infinity ∧ unitsAt k = m * 2 ^ j * unitsPerOne := by
  rcases Nat.eq_zero_or_pos m with rfl | hpos
  · exact ⟨0, by decide, by rw [unitsAt_zero, Nat.zero_mul, Nat.zero_mul]⟩
  obtain ⟨k, -, hk⟩ := exists_unitsAt_eq hm
  obtain ⟨s, q, rfl, hs, hq⟩ := exists_spaced k
  rw [unitsAt_spaced hs hq.le] at hk
  -- one is many units already, so the exponent field is not zero
  have hge : exponentWeight ≤ q := by
    rcases hs with rfl | hge
    · have hone : 2 * exponentWeight < unitsPerOne := by
        rw [unitsPerOne_eq, two_mul_exponentWeight]
        exact two_pow_lt_two_pow 1074 (by decide)
      have hmul := Nat.le_mul_of_pos_left unitsPerOne hpos
      omega
    · exact hge
  have hunits : unitsAt ((s + j) * exponentWeight + q) = m * 2 ^ j * unitsPerOne := by
    rw [unitsAt_spaced (.inr hge) hq.le, pow_add, ← mul_assoc, hk, Nat.mul_right_comm]
  refine ⟨_, ?_, hunits⟩
  rw [← strictMono_unitsAt.lt_iff_lt, hunits, unitsAt_infinity_eq_mul]
  exact Nat.mul_lt_mul_of_pos_right hrange (by rw [unitsPerOne_eq]; positivity)

lemma significand_lt (x : Binary64) : x.significand < 2 ^ 53 := by
  have hfraction := x.fractionField_lt
  rw [← two_mul_exponentWeight, significand]
  split_ifs <;> omega

/-- The count of a real that is an integer. -/
lemma units_of_value_eq {x : Binary64} {i : ℤ} (h : x.value = i) :
    x.units = i.natAbs * unitsPerOne := by
  have hpos := unitsPerOne_pos
  have habs : |x.value| = (x.units / unitsPerOne : ℚ) := by
    rw [value_eq_signOf, abs_signOf_mul, units_eq_unitsAt,
      abs_of_nonneg (div_nonneg (Nat.cast_nonneg _) hpos.le)]
  rw [h, ← Int.cast_abs, Int.abs_eq_natAbs, Int.cast_natCast, eq_div_iff hpos.ne'] at habs
  exact_mod_cast habs.symm

/-- What is left of an integer without its factors of two has no more bits than a significand. -/
lemma divMaxPow_lt_of_value_eq {x : Binary64} {i : ℤ} (h : x.value = i) (hi : i ≠ 0) :
    i.natAbs.divMaxPow 2 < 2 ^ 53 := by
  have hne : i.natAbs ≠ 0 := Int.natAbs_ne_zero.2 hi
  have hunits := units_of_value_eq h
  have hdvd : i.natAbs.divMaxPow 2 ∣ x.significand * 2 ^ (x.exponentField - 1) := by
    rw [← units_eq, hunits]
    refine Dvd.dvd.mul_right ?_ _
    exact ⟨_, (Nat.divMaxPow_mul_pow_padicValNat 2 i.natAbs).symm⟩
  have hcoprime : (i.natAbs.divMaxPow 2).Coprime (2 ^ (x.exponentField - 1)) := by
    refine Nat.Coprime.pow_right _ (Nat.Coprime.symm ?_)
    exact (Nat.Prime.coprime_iff_not_dvd Nat.prime_two).2
      (Nat.not_dvd_divMaxPow Nat.one_lt_two hne)
  have hpos : 0 < x.significand := by
    refine Nat.pos_of_ne_zero fun hzero => ?_
    rw [units_eq, hzero, Nat.zero_mul, unitsPerOne_eq] at hunits
    exact (Nat.mul_pos (Nat.pos_of_ne_zero hne) (by positivity)).ne hunits
  exact lt_of_le_of_lt (Nat.le_of_dvd hpos (hcoprime.dvd_of_dvd_mul_right hdvd)) x.significand_lt

/-- **An integer in range is a real** if 53 bits are enough for it without its factors of two. -/
theorem isExact_iff {i : ℤ} (hrange : i.natAbs < 2 ^ 1024) :
    IsExact i ↔ i = 0 ∨ i.natAbs.divMaxPow 2 < 2 ^ 53 := by
  constructor
  · rintro ⟨x, -, hvalue⟩
    by_cases hi : i = 0
    · exact .inl hi
    · exact .inr (divMaxPow_lt_of_value_eq hvalue hi)
  · intro h
    have hlt : i.natAbs.divMaxPow 2 < 2 * exponentWeight := by
      rw [two_mul_exponentWeight]
      rcases h with rfl | h
      · rw [Int.natAbs_zero, Nat.divMaxPow_zero_left]
        positivity
      · exact h
    have hsplit := Nat.divMaxPow_mul_pow_padicValNat 2 i.natAbs
    obtain ⟨k, hk, hunits⟩ := exists_unitsAt_eq_mul_pow hlt (hsplit.symm ▸ hrange)
    rw [hsplit] at hunits
    exact exists_value_eq_of_unitsAt hk hunits

/-- **An integer that is rounded** equals the real it is rounded to exactly if it is one. -/
theorem equalsInt_iff_isExact {x : Binary64} {negative : Bool} {i : Int64}
    (h : x.IsRounded negative i.toInt) : x.equalsInt i = true ↔ IsExact i.toInt := by
  rw [equalsInt_iff_number?]
  constructor
  · intro hx
    have hfinite := isFinite_of_number? hx
    rw [number?_of_isFinite hfinite] at hx
    exact ⟨x, hfinite, Number.finite.inj (Option.some.inj hx)⟩
  · rintro ⟨y, hy, hvalue⟩
    obtain ⟨hfinite, hx⟩ := h.value_eq hy hvalue
    rw [number?_of_isFinite hfinite, hx]

end Binary64
end LooseEquality
