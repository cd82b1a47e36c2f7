import LooseEquality.Proofs.Binary64.Rounding
import Mathlib.Data.Rat.Floor

/-!
# Reals and integers

A real and an integer are compared by converting each of them to the type of the other.  Neither
conversion is exact, and it takes both for the comparison to be: an integer beyond `2⁵³` may be
rounded to a real that is another integer, and a real with digits after the point loses them.

* `Binary64.truncate` — a number without its digits after the point;
* `isRounded_ofInt`, **`toInt128_eq`** — what the two conversions do.

**`equalsInt_iff_number?`** says that a real equals a 64-bit integer exactly if that is the number
it denotes.  A real with digits after the point is small (`value_integer_or_small`), and so would be
the integer that it turns into; but small integers are not changed by rounding (`exists_value_eq`).
-/

namespace LooseEquality
namespace Binary64

/-! ## From reals to integers -/

/-- A number without its digits after the point. -/
def truncate (q : ℚ) : ℤ := if 0 ≤ q then ⌊q⌋ else ⌈q⌉

lemma truncate_intCast (i : ℤ) : truncate i = i := by
  simp [truncate]

lemma truncate_neg (q : ℚ) : truncate (-q) = -truncate q := by
  rcases lt_trichotomy q 0 with hlt | rfl | hgt
  · rw [truncate, truncate, if_pos (by linarith), if_neg (not_le.2 hlt), Int.floor_neg]
  · simp [truncate]
  · rw [truncate, truncate, if_neg (by linarith), if_pos hgt.le, Int.ceil_neg]

lemma truncate_of_nonneg {q : ℚ} (h : 0 ≤ q) : truncate q = ⌊q⌋ := if_pos h

lemma abs_truncate_le (q : ℚ) : |(truncate q : ℚ)| ≤ |q| := by
  rcases le_total 0 q with hq | hq
  · rw [truncate_of_nonneg hq, abs_of_nonneg (Int.cast_nonneg (Int.floor_nonneg.2 hq)),
      abs_of_nonneg hq]
    exact Int.floor_le q
  · have hq' : 0 ≤ -q := by linarith
    rw [← neg_neg q, truncate_neg, Int.cast_neg, abs_neg, abs_neg, truncate_of_nonneg hq',
      abs_of_nonneg (Int.cast_nonneg (Int.floor_nonneg.2 hq')), abs_of_nonneg hq']
    exact Int.floor_le (-q)

lemma tdiv_signedUnits (x : Binary64) : x.signedUnits.tdiv unitsPerOne = truncate x.value := by
  have hunits : (x.units : ℤ).tdiv unitsPerOne = truncate (x.units / unitsPerOne) := by
    rw [truncate_of_nonneg (div_nonneg (Nat.cast_nonneg _) (Nat.cast_nonneg _)),
      Rat.floor_natCast_div_natCast, Int.tdiv_eq_ediv_of_nonneg (Int.natCast_nonneg _)]
  rw [value_eq, signedUnits]
  split_ifs
  · rw [Int.neg_tdiv, hunits, Int.cast_neg, neg_div, truncate_neg, Int.cast_natCast]
  · rw [hunits, Int.cast_natCast]

/-- **The integer of a real** is the number without its digits after the point, brought into
range. -/
theorem toInt128_eq (x : Binary64) :
    x.toInt128 =
      match x.number? with
      | none => 0
      | some (.finite q) => clampInt128 (truncate q)
      | some (.infinite true) => leastInt128
      | some (.infinite false) => greatestInt128 := by
  rw [toInt128, number?, tdiv_signedUnits]
  cases x.isNaN with
  | true => rfl
  | false =>
    cases x.isFinite with
    | true => rfl
    | false => cases x.isNegative <;> rfl

/-- An integer that lies inside the range comes from itself only. -/
lemma clampInt128_eq_iff {z i : ℤ} (hleast : leastInt128 < i) (hgreatest : i < greatestInt128) :
    clampInt128 z = i ↔ z = i := by
  simp only [clampInt128, leastInt128, greatestInt128] at *
  split_ifs <;> omega

/-! ## From integers to reals -/

/-- An integer is its sign and its absolute value. -/
lemma signOf_mul_natAbs (i : ℤ) : signOf (decide (i < 0)) * i.natAbs = (i : ℚ) := by
  rw [Nat.cast_natAbs, signOf]
  rcases lt_or_ge i 0 with hneg | hpos
  · simp [hneg, abs_of_neg hneg]
  · simp [not_lt.2 hpos, abs_of_nonneg hpos]

/-- A real with a large exponent is an integer, and one with a small exponent is small. -/
lemma value_integer_or_small (x : Binary64) :
    (∃ z : ℤ, x.value = z) ∨ |x.value| < exponentWeight := by
  have hpos := unitsPerOne_pos
  rcases Nat.lt_or_ge x.exponentField 1075 with hlt | hge
  · right
    have hpow : ∀ e, x.exponentField ≤ e → 2 ^ x.exponentField ≤ 2 ^ e := fun e he =>
      Nat.pow_le_pow_right Nat.two_pos he
    have hunits : x.units < exponentWeight * unitsPerOne := by
      rw [unitsPerOne_eq]
      exact lt_of_lt_of_le x.units_lt (Nat.mul_le_mul_left _ (hpow 1074 (by omega)))
    rw [value_eq_signOf, abs_signOf_mul, abs_of_nonneg (div_nonneg (Nat.cast_nonneg _) hpos.le),
      div_lt_iff₀ hpos, ← Nat.cast_mul, Nat.cast_lt]
    exact hunits
  · left
    obtain ⟨e, he⟩ := Nat.exists_eq_add_of_le hge
    have hexp : x.exponentField - 1 = e + 1074 := by omega
    have hunits : x.units = x.significand * 2 ^ e * unitsPerOne := by
      rw [units_eq, hexp, pow_add, unitsPerOne_eq, mul_assoc]
    refine ⟨(if x.isNegative then -1 else 1) * (x.significand * 2 ^ e : ℕ), ?_⟩
    rw [value_eq_signOf, ← units_eq_unitsAt, hunits, Nat.cast_mul, mul_div_cancel_right₀ _ hpos.ne',
      signOf]
    split_ifs <;> simp

/-- Every integer of at most 53 bits is the count of a finite magnitude. -/
lemma exists_unitsAt_eq {n : ℕ} (h : n < 2 * exponentWeight) :
    ∃ k, k < infinity ∧ unitsAt k = n * unitsPerOne := by
  rcases Nat.eq_zero_or_pos n with rfl | hn
  · exact ⟨0, by decide, by rw [unitsAt_zero, Nat.zero_mul]⟩
  · have hbits : 2 * exponentWeight = 2 ^ 53 := by decide
    have hlog : n.log2 < 53 := (Nat.log2_lt hn.ne').2 (hbits ▸ h)
    have hself := Nat.log2_self_le hn.ne'
    have hlt := Nat.lt_log2_self (n := n)
    generalize n.log2 = l at *
    -- doubled this many times, the integer has 53 bits
    have hsplit : 2 ^ l * 2 ^ (52 - l) = exponentWeight := by
      rw [← pow_add, show l + (52 - l) = 52 by omega]
      rfl
    have hge : exponentWeight ≤ n * 2 ^ (52 - l) := by
      rw [← hsplit]
      exact Nat.mul_le_mul_right _ hself
    have hle : n * 2 ^ (52 - l) < 2 * exponentWeight := by
      rw [← hsplit, ← mul_assoc, ← pow_succ']
      exact Nat.mul_lt_mul_of_pos_right hlt (by positivity)
    refine ⟨(l + 1022) * exponentWeight + n * 2 ^ (52 - l), ?_, ?_⟩
    · have hshift : (l + 1022) * exponentWeight ≤ 1074 * exponentWeight :=
        Nat.mul_le_mul_right _ (by omega)
      have hroom : 1074 * exponentWeight + 2 * exponentWeight < infinity := by decide
      omega
    · rw [unitsAt_spaced (.inr hge) hle.le, mul_assoc, ← pow_add, unitsPerOne_eq,
        show 52 - l + (l + 1022) = 1074 by omega]

/-- An integer has a real of its own if its count of units is that of a finite magnitude. -/
lemma exists_value_eq_of_unitsAt {i : ℤ} {k : ℕ} (hk : k < infinity)
    (hunits : unitsAt k = i.natAbs * unitsPerOne) :
    ∃ y : Binary64, y.isFinite = true ∧ y.value = i := by
  have hlt : k < signWeight := lt_trans hk (by decide)
  refine ⟨ofMagnitude (decide (i < 0)) k, ?_, ?_⟩
  · rw [isFinite_iff, magnitude_ofMagnitude _ hlt]
    exact hk
  · rw [value_eq_signOf, magnitude_ofMagnitude _ hlt, isNegative_ofMagnitude _ hlt, hunits,
      Nat.cast_mul, mul_div_cancel_right₀ _ unitsPerOne_pos.ne', signOf_mul_natAbs]

/-- **Small integers have a real of their own.** -/
lemma exists_value_eq {i : ℤ} (h : i.natAbs < 2 * exponentWeight) :
    ∃ y : Binary64, y.isFinite = true ∧ y.value = i := by
  obtain ⟨k, hk, hunits⟩ := exists_unitsAt_eq h
  exact exists_value_eq_of_unitsAt hk hunits

/-- **The real of an integer** is the integer rounded. -/
theorem isRounded_ofInt (i : ℤ) : (ofInt i).IsRounded (decide (i < 0)) i := by
  have h := isRounded_nearest (decide (i < 0)) i.natAbs Nat.one_pos
  rw [Nat.cast_one, div_one, signOf_mul_natAbs] at h
  exact h

/-! ## Both conversions -/

/-- **A real equals an integer exactly if that is the number it denotes.** -/
theorem equalsInt_iff_number? {x : Binary64} {i : Int64} :
    x.equalsInt i = true ↔ x.number? = some (.finite i.toInt) := by
  have hleast : leastInt128 < i.toInt := lt_of_lt_of_le (by decide) i.le_toInt
  have hgreatest : i.toInt < greatestInt128 := lt_trans i.toInt_lt (by decide)
  have hrounded := isRounded_ofInt i.toInt
  rw [equalsInt, Bool.and_eq_true, beq_iff_eq, equal_iff_number?]
  constructor
  · rintro ⟨⟨n, hx, hn⟩, hint⟩
    have hfinite : x.isFinite = true := by
      cases n with
      | finite q => exact isFinite_of_number? hx
      | infinite negative =>
        rw [toInt128_eq, hx] at hint
        cases negative with
        | true => exact absurd hint hleast.ne
        | false => exact absurd hint hgreatest.ne'
    obtain rfl : Number.finite x.value = n :=
      Option.some.inj ((number?_of_isFinite hfinite).symm.trans hx)
    rw [toInt128_eq, hx] at hint
    replace hint := (clampInt128_eq_iff hleast hgreatest).1 hint
    rcases value_integer_or_small x with ⟨z, hz⟩ | hsmall
    · rw [hx, ← hint, hz, truncate_intCast]
    · have hrange : i.toInt.natAbs < 2 * exponentWeight := by
        have habs := lt_of_le_of_lt (abs_truncate_le x.value) hsmall
        rw [hint, ← Int.cast_abs, Int.abs_eq_natAbs, Int.cast_natCast, Nat.cast_lt] at habs
        omega
      obtain ⟨y, hy, hvalue⟩ := exists_value_eq hrange
      obtain ⟨hfinite', hvalue'⟩ := hrounded.value_eq hy hvalue
      rw [hx, ← hvalue', ← number?_of_isFinite hfinite', hn]
  · intro hx
    have hfinite := isFinite_of_number? hx
    have hvalue : x.value = i.toInt := by
      rw [number?_of_isFinite hfinite] at hx
      simpa using hx
    obtain ⟨hfinite', hvalue'⟩ := hrounded.value_eq hfinite hvalue
    refine ⟨⟨_, hx, ?_⟩, ?_⟩
    · rw [number?_of_isFinite hfinite', hvalue']
    · rw [toInt128_eq, hx]
      exact (clampInt128_eq_iff hleast hgreatest).2 (truncate_intCast _)

end Binary64
end LooseEquality
