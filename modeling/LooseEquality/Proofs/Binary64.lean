import LooseEquality.Binary64
import Mathlib.Data.Rat.Cast.Order
import Mathlib.Tactic.FieldSimp
import Mathlib.Tactic.Linarith
import Mathlib.Tactic.Ring

/-!
# The number a real denotes

`LooseEquality.Binary64` compares reals by their patterns and never says what a pattern denotes
other than as a count of units.  Here the number is spelled out, and the comparisons are shown to
be about it.

* `Binary64.Number` — a rational number, or one of the two infinities;
* `Binary64.value` — the rational of a finite pattern, as sign, significand and power of two;
* `Binary64.number?` — the number of a pattern; a NaN has none.

**`equal_iff_number?`** says that two reals compare equal exactly if they denote the same number.

The one fact behind it is that a magnitude can be recovered from its count of units
(`magnitude_eq_of_units_eq`): the counts with exponent field `e` lie between `2⁵² · 2ᵉ⁻¹` and
`2⁵² · 2ᵉ`, so those of different exponents do not overlap.
-/

namespace LooseEquality
namespace Binary64

/-- A rational number or an infinity. -/
inductive Number where
  | finite (q : ℚ)
  | infinite (negative : Bool)
  deriving DecidableEq

/-- The exponent field of a pattern. -/
def exponentField (x : Binary64) : ℕ := x.magnitude / exponentWeight

/-- The fraction field of a pattern. -/
def fractionField (x : Binary64) : ℕ := x.magnitude % exponentWeight

/-- The significand of a finite pattern: the fraction, with a leading one unless the exponent field
is zero. -/
def significand (x : Binary64) : ℕ :=
  if x.exponentField = 0 then x.fractionField else exponentWeight + x.fractionField

/-- The rational number a finite pattern denotes.  Patterns with exponent field zero have the same
power of two as those with exponent field one. -/
def value (x : Binary64) : ℚ :=
  (if x.isNegative then -1 else 1) * x.significand * 2 ^ ((max 1 x.exponentField : ℤ) - 1075)

/-- The number a pattern denotes, if it denotes one. -/
def number? (x : Binary64) : Option Number :=
  if x.isNaN then none
  else if x.isFinite then some (.finite x.value)
  else some (.infinite x.isNegative)

/-! ## Counts of units -/

lemma fractionField_lt (x : Binary64) : x.fractionField < exponentWeight :=
  Nat.mod_lt _ (by decide)

/-- A magnitude is its two fields. -/
lemma magnitude_eq (x : Binary64) :
    x.magnitude = exponentWeight * x.exponentField + x.fractionField :=
  (Nat.div_add_mod _ _).symm

/-- A count of units is a significand and a number of doublings. -/
lemma units_eq (x : Binary64) : x.units = x.significand * 2 ^ (x.exponentField - 1) := by
  by_cases h : x.magnitude / exponentWeight = 0
  · simp [units, significand, exponentField, fractionField, h]
  · simp [units, significand, exponentField, fractionField, h, Nat.shiftLeft_eq]

/-- Counts stay below the bound that their exponent field sets. -/
lemma units_lt (x : Binary64) : x.units < exponentWeight * 2 ^ x.exponentField := by
  have hf := x.fractionField_lt
  rw [units_eq, significand]
  split_ifs with h
  · simpa [h] using hf
  · obtain ⟨e, he⟩ := Nat.exists_eq_succ_of_ne_zero h
    have hlt : exponentWeight + x.fractionField < exponentWeight * 2 := by omega
    rw [he, Nat.succ_sub_one, pow_succ', ← mul_assoc]
    exact Nat.mul_lt_mul_of_pos_right hlt (by positivity)

/-- Counts with a positive exponent field reach the bound of the exponent field below. -/
lemma le_units (x : Binary64) (h : x.exponentField ≠ 0) :
    exponentWeight * 2 ^ (x.exponentField - 1) ≤ x.units := by
  rw [units_eq, significand, if_neg h]
  exact Nat.mul_le_mul_right _ (Nat.le_add_right _ _)

/-- A larger exponent field means a larger count, whatever the fractions. -/
lemma units_lt_of_exponentField_lt {x y : Binary64} (h : x.exponentField < y.exponentField) :
    x.units < y.units := by
  have hy : y.exponentField ≠ 0 := by omega
  calc x.units < exponentWeight * 2 ^ x.exponentField := x.units_lt
    _ ≤ exponentWeight * 2 ^ (y.exponentField - 1) :=
        Nat.mul_le_mul_left _ (Nat.pow_le_pow_right (by decide) (by omega))
    _ ≤ y.units := y.le_units hy

/-- **A magnitude can be recovered from its count of units.** -/
theorem magnitude_eq_of_units_eq {x y : Binary64} (h : x.units = y.units) :
    x.magnitude = y.magnitude := by
  have he : x.exponentField = y.exponentField := by
    rcases lt_trichotomy x.exponentField y.exponentField with hlt | heq | hgt
    · have := units_lt_of_exponentField_lt hlt
      omega
    · exact heq
    · have := units_lt_of_exponentField_lt hgt
      omega
  have hs : x.significand = y.significand := by
    rw [units_eq, units_eq, he] at h
    exact Nat.eq_of_mul_eq_mul_right (by positivity) h
  have hf : x.fractionField = y.fractionField := by
    rw [significand, significand, he] at hs
    split_ifs at hs
    · exact hs
    · omega
  rw [magnitude_eq, magnitude_eq, he, hf]

lemma units_eq_zero_iff (x : Binary64) : x.units = 0 ↔ x.magnitude = 0 := by
  constructor
  · intro h
    have hzero : x.units = (⟨0⟩ : Binary64).units := by rw [h]; rfl
    rw [magnitude_eq_of_units_eq hzero]
    rfl
  · intro h
    simp [units, h]

/-! ## From counts to numbers -/

lemma unitsPerOne_cast : (unitsPerOne : ℚ) = 2 ^ (1074 : ℤ) := by
  have h : ∀ n : ℕ, ((1 <<< n : ℕ) : ℚ) = 2 ^ (n : ℤ) := by
    intro n
    rw [Nat.one_shiftLeft, Nat.cast_pow, zpow_natCast, Nat.cast_ofNat]
  exact h 1074

lemma unitsPerOne_pos : (0 : ℚ) < unitsPerOne := by
  rw [unitsPerOne_cast]
  exact zpow_pos two_pos _

/-- The rational of a pattern is its count of units over the number of units in one. -/
lemma value_eq (x : Binary64) : x.value = x.signedUnits / unitsPerOne := by
  have hpow : (2 : ℚ) ^ ((max 1 x.exponentField : ℤ) - 1075)
      = 2 ^ (x.exponentField - 1) / unitsPerOne := by
    have hexp : (max 1 x.exponentField : ℤ) - 1075 = ((x.exponentField - 1 : ℕ) : ℤ) - 1074 := by
      omega
    rw [hexp, zpow_sub₀ two_ne_zero, zpow_natCast, unitsPerOne_cast]
  rw [value, hpow, signedUnits, units_eq]
  split_ifs
  · push_cast
    ring
  · push_cast
    ring

lemma value_eq_iff {x y : Binary64} : x.value = y.value ↔ x.signedUnits = y.signedUnits := by
  rw [value_eq, value_eq, div_left_inj' unitsPerOne_pos.ne', Int.cast_inj]

/-- A pattern is its sign and its magnitude. -/
lemma bits_toNat (x : Binary64) :
    x.bits.toNat = (if x.isNegative then signWeight else 0) + x.magnitude := by
  have hlt : x.bits.toNat < 2 * signWeight := x.bits.toNat_lt
  by_cases h : signWeight ≤ x.bits.toNat
  · have hmod : x.magnitude = x.bits.toNat - signWeight := by
      rw [magnitude, Nat.mod_eq_sub_mod h, Nat.mod_eq_of_lt (by omega)]
    simp only [isNegative, h, decide_true, if_true, hmod]
    omega
  · have hmod : x.magnitude = x.bits.toNat := Nat.mod_eq_of_lt (by omega)
    simp [isNegative, h, hmod]

lemma bits_eq_iff {x y : Binary64} :
    x.bits = y.bits ↔ x.isNegative = y.isNegative ∧ x.magnitude = y.magnitude := by
  constructor
  · intro h
    simp [isNegative, magnitude, h]
  · rintro ⟨hn, hm⟩
    rw [← UInt64.toNat_inj, bits_toNat, bits_toNat, hn, hm]

/-- Zero has two patterns, one for each sign. -/
lemma isZero_iff {x : Binary64} : x.isZero = true ↔ x.bits = 0 ∨ x.bits = 0x8000000000000000 := by
  have hzero : (⟨0⟩ : Binary64).isNegative = false ∧ (⟨0⟩ : Binary64).magnitude = 0 := by decide
  have hminus : (⟨0x8000000000000000⟩ : Binary64).isNegative = true
      ∧ (⟨0x8000000000000000⟩ : Binary64).magnitude = 0 := by decide
  rw [isZero, beq_iff_eq]
  constructor
  · intro h
    cases hn : x.isNegative with
    | false => exact .inl ((bits_eq_iff (y := ⟨0⟩)).2 ⟨hn.trans hzero.1.symm, h.trans hzero.2.symm⟩)
    | true =>
      exact .inr ((bits_eq_iff (y := ⟨0x8000000000000000⟩)).2
        ⟨hn.trans hminus.1.symm, h.trans hminus.2.symm⟩)
  · rintro (h | h)
    · exact ((bits_eq_iff (y := ⟨0⟩)).1 h).2.trans hzero.2
    · exact ((bits_eq_iff (y := ⟨0x8000000000000000⟩)).1 h).2.trans hminus.2

/-- Finite reals with the same signed count are the same pattern, or zeros of either sign. -/
lemma signedUnits_eq_iff {x y : Binary64} :
    x.signedUnits = y.signedUnits ↔ x.bits = y.bits ∨ (x.isZero = true ∧ y.isZero = true) := by
  have hzero : ∀ z : Binary64, z.isZero = true ↔ z.units = 0 := by
    intro z
    rw [isZero, beq_iff_eq, units_eq_zero_iff]
  rw [hzero, hzero, bits_eq_iff]
  constructor
  · intro h
    by_cases hx : x.units = 0
    · right
      refine ⟨hx, ?_⟩
      simp only [signedUnits, hx] at h
      split_ifs at h <;> omega
    · left
      have hsign : x.isNegative = y.isNegative := by
        simp only [signedUnits] at h
        cases hxn : x.isNegative <;> cases hyn : y.isNegative <;>
          simp only [hxn, hyn, if_true, Bool.false_eq_true, if_false] at h ⊢ <;> omega
      refine ⟨hsign, magnitude_eq_of_units_eq ?_⟩
      simp only [signedUnits, hsign] at h
      split_ifs at h <;> omega
  · rintro (⟨hn, hm⟩ | ⟨hx, hy⟩)
    · simp [signedUnits, units, hn, hm]
    · simp [signedUnits, hx, hy]

/-! ## Comparing is comparing numbers -/

lemma isFinite_iff {x : Binary64} : x.isFinite = true ↔ x.magnitude < infinity := decide_eq_true_iff

/-- A pattern that is neither finite nor a NaN is infinite. -/
lemma magnitude_eq_infinity {x : Binary64} (hn : x.isNaN = false) (hf : x.isFinite = false) :
    x.magnitude = infinity := by
  simp only [isNaN, isFinite, decide_eq_false_iff_not, not_lt] at hn hf
  omega

lemma isZero_eq_false_of_magnitude_eq_infinity {x : Binary64} (h : x.magnitude = infinity) :
    x.isZero = false := by
  rw [isZero, h]
  decide

/-- **Two reals compare equal exactly if they denote the same number.** -/
theorem equal_iff_number? {x y : Binary64} :
    x.equal y = true ↔ ∃ n, x.number? = some n ∧ y.number? = some n := by
  cases hx : x.isNaN with
  | true => simp [equal, number?, hx]
  | false =>
    cases hy : y.isNaN with
    | true => simp [equal, number?, hy]
    | false =>
      have hnum : (∃ n, x.number? = some n ∧ y.number? = some n) ↔ x.number? = y.number? := by
        simp only [number?, hx, hy, Bool.false_eq_true, if_false]
        split_ifs <;> simp [eq_comm]
      have heq : x.equal y = true ↔ x.bits = y.bits ∨ (x.isZero = true ∧ y.isZero = true) := by
        simp [equal, hx, hy]
      rw [hnum, heq]
      cases hfx : x.isFinite with
      | true =>
        cases hfy : y.isFinite with
        | true => simp [number?, hx, hy, hfx, hfy, value_eq_iff, signedUnits_eq_iff]
        | false =>
          have hmy := magnitude_eq_infinity hy hfy
          have hne : x.magnitude ≠ y.magnitude := by
            have := isFinite_iff.1 hfx
            omega
          simp [number?, hx, hy, hfx, hfy, bits_eq_iff, hne,
            isZero_eq_false_of_magnitude_eq_infinity hmy]
      | false =>
        have hmx := magnitude_eq_infinity hx hfx
        cases hfy : y.isFinite with
        | true =>
          have hne : x.magnitude ≠ y.magnitude := by
            have := isFinite_iff.1 hfy
            omega
          simp [number?, hx, hy, hfx, hfy, bits_eq_iff, hne,
            isZero_eq_false_of_magnitude_eq_infinity hmx]
        | false =>
          have hmy := magnitude_eq_infinity hy hfy
          simp [number?, hx, hy, hfx, hfy, bits_eq_iff, hmx, hmy,
            isZero_eq_false_of_magnitude_eq_infinity hmx]

end Binary64
end LooseEquality
