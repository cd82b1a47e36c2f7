import LooseEquality.Proofs.Binary64.Magnitude

/-!
# The nearest real

What it means that a number was rounded to a real, in terms of reals and the numbers they denote.

* `Binary64.IsRounded` — the real is the one nearest to a number, the number's sign is kept on zero
  and on infinity, and of two reals that are equally near it is the one with the even significand.

A number rounds to infinity if it would do so with exponents that are not bounded, which is from
halfway between the largest finite real and the next power of two (`overflowBound`).

**`isRounded_nearest`** says that `nearest` rounds, and **`IsRounded.unique`** that there is only
one way to do it.  Reals of the other sign than the number need no attention in either, because zero
is nearer than all of them (`exists_unitsAt_le`).
-/

namespace LooseEquality
namespace Binary64

/-! ## Reals as magnitudes -/

/-- A sign as a factor. -/
def signOf (negative : Bool) : ℚ := if negative then -1 else 1

lemma signOf_mul_self (b : Bool) : signOf b * signOf b = 1 := by
  cases b <;> norm_num [signOf]

lemma abs_signOf_mul (b : Bool) (q : ℚ) : |signOf b * q| = |q| := by
  cases b <;> simp [signOf]

lemma ofMagnitude_toNat {negative : Bool} {m : ℕ} (hm : m < signWeight) :
    (ofMagnitude negative m).bits.toNat = (if negative then signWeight else 0) + m := by
  have hsize : 2 * signWeight = 2 ^ 64 := rfl
  cases negative with
  | false =>
    show (UInt64.ofNat m).toNat = 0 + m
    rw [UInt64.toNat_ofNat_of_lt' (by simp only [UInt64.size]; omega), Nat.zero_add]
  | true =>
    show (UInt64.ofNat (signWeight + m)).toNat = signWeight + m
    rw [UInt64.toNat_ofNat_of_lt' (by simp only [UInt64.size]; omega)]

lemma isNegative_ofMagnitude (negative : Bool) {m : ℕ} (hm : m < signWeight) :
    (ofMagnitude negative m).isNegative = negative := by
  rw [isNegative, ofMagnitude_toNat hm]
  cases negative <;> simp [hm]

lemma magnitude_ofMagnitude (negative : Bool) {m : ℕ} (hm : m < signWeight) :
    (ofMagnitude negative m).magnitude = m := by
  rw [magnitude, ofMagnitude_toNat hm]
  cases negative <;> simp [Nat.mod_eq_of_lt hm]

/-- The number of a finite real is its sign times the count at its magnitude. -/
lemma value_eq_signOf (x : Binary64) :
    x.value = signOf x.isNegative * (unitsAt x.magnitude / unitsPerOne) := by
  rw [value_eq, signedUnits, units_eq_unitsAt, signOf]
  split_ifs
  · push_cast
    ring
  · push_cast
    ring

/-- How far a real is from a number is how far its magnitude is, for a number of the same sign. -/
lemma abs_value_sub (x : Binary64) (q : ℚ) :
    |x.value - q|
      = |(unitsAt x.magnitude : ℚ) - signOf x.isNegative * q * unitsPerOne| / unitsPerOne := by
  have hpos := unitsPerOne_pos
  have hscale : signOf x.isNegative * (x.value - q)
      = (unitsAt x.magnitude - signOf x.isNegative * q * unitsPerOne) / unitsPerOne := by
    rw [value_eq_signOf, mul_sub, ← mul_assoc, signOf_mul_self]
    field_simp
  rw [← abs_signOf_mul x.isNegative, hscale, abs_div, abs_of_pos hpos]

/-- The significand and the magnitude differ by an even number. -/
lemma even_significand_iff (x : Binary64) : Even x.significand ↔ Even x.magnitude := by
  have hweight : Even exponentWeight := by decide
  rw [magnitude_eq, significand]
  split_ifs with h
  · simp [h]
  · rw [Nat.even_add, Nat.even_add]
    simp [hweight, hweight.mul_right]

lemma number?_of_magnitude_eq_infinity {x : Binary64} (h : x.magnitude = infinity) :
    x.number? = some (.infinite x.isNegative) := by
  simp [number?, isNaN, isFinite, h]

/-! ## Rounding -/

/-- The real is `q` rounded.  The sign is that of `q`, and given apart for the sake of zero. -/
structure IsRounded (x : Binary64) (negative : Bool) (q : ℚ) : Prop where
  isNegative_eq : x.isNegative = negative
  infinite : overflowBound ≤ |q| → x.number? = some (.infinite negative)
  finite : |q| < overflowBound → x.isFinite = true
  nearest : |q| < overflowBound → ∀ y : Binary64, y.isFinite = true → |x.value - q| ≤ |y.value - q|
  even : |q| < overflowBound → ∀ y : Binary64, y.isFinite = true →
    |y.value - q| = |x.value - q| → y.value ≠ x.value → Even x.significand

/-- No real is nearer to a number than some magnitude with the sign of the number, and only that
magnitude is as near.  For a real of the other sign this is zero. -/
lemma exists_unitsAt_le (y : Binary64) (negative : Bool) {q : ℚ} (hq : 0 ≤ q) :
    ∃ k, |(unitsAt k : ℚ) - q * unitsPerOne| / unitsPerOne ≤ |y.value - signOf negative * q| ∧
      (|y.value - signOf negative * q| ≤ |(unitsAt k : ℚ) - q * unitsPerOne| / unitsPerOne →
        y.value = signOf negative * (unitsAt k / unitsPerOne)) := by
  have hpos := unitsPerOne_pos
  have hqpos : 0 ≤ q * unitsPerOne := mul_nonneg hq hpos.le
  by_cases hsame : y.isNegative = negative
  · subst hsame
    have hdist := abs_value_sub y (signOf y.isNegative * q)
    rw [← mul_assoc, signOf_mul_self, one_mul] at hdist
    exact ⟨y.magnitude, hdist.ge, fun _ => value_eq_signOf y⟩
  · have hsigns : signOf y.isNegative * (signOf negative * q) = -q := by
      revert hsame
      cases y.isNegative <;> cases negative <;> simp [signOf]
    have hunits : (0 : ℚ) ≤ unitsAt y.magnitude := Nat.cast_nonneg _
    have hdist := abs_value_sub y (signOf negative * q)
    rw [hsigns, neg_mul, sub_neg_eq_add, abs_of_nonneg (add_nonneg hunits hqpos)] at hdist
    rw [hdist]
    refine ⟨0, ?_, fun hle => ?_⟩
    · rw [unitsAt_zero, Nat.cast_zero, zero_sub, abs_neg, abs_of_nonneg hqpos]
      exact div_le_div_of_nonneg_right (by linarith) hpos.le
    · rw [unitsAt_zero, Nat.cast_zero, zero_sub, abs_neg, abs_of_nonneg hqpos,
        div_le_div_iff_of_pos_right hpos] at hle
      have hzero : (unitsAt y.magnitude : ℚ) = 0 := by linarith
      rw [value_eq_signOf, hzero, unitsAt_zero, Nat.cast_zero, zero_div, mul_zero, mul_zero]

/-- **The real with the nearest magnitude is the nearest real.** -/
theorem isRounded_ofMagnitude (negative : Bool) {q : ℚ} {m : ℕ} (hq : 0 ≤ q)
    (h : IsNearest (q * unitsPerOne) m) :
    (ofMagnitude negative (min infinity m)).IsRounded negative (signOf negative * q) := by
  have hpos := unitsPerOne_pos
  have hlt : min infinity m < signWeight := lt_of_le_of_lt (min_le_left _ _) (by decide)
  have hmag := magnitude_ofMagnitude negative hlt
  have hneg := isNegative_ofMagnitude negative hlt
  generalize ofMagnitude negative (min infinity m) = x at hmag hneg
  have habs : |signOf negative * q| = q := by rw [abs_signOf_mul, abs_of_nonneg hq]
  have hover : overflowBound ≤ q ↔ infinity ≤ m := by
    rw [h.infinity_le_iff, mul_le_mul_iff_left₀ hpos]
  have hfinite : q < overflowBound → m < infinity := by
    rw [← not_le, hover, not_le]
    exact id
  -- how far away the real itself is
  have hdist : q < overflowBound →
      |x.value - signOf negative * q|
        = |(unitsAt m : ℚ) - q * unitsPerOne| / unitsPerOne := by
    intro hbound
    rw [abs_value_sub, hneg, hmag, min_eq_right (hfinite hbound).le, ← mul_assoc,
      signOf_mul_self, one_mul]
  refine ⟨hneg, ?_, ?_, ?_, ?_⟩ <;> rw [habs]
  · intro hbound
    rw [min_eq_left (hover.1 hbound)] at hmag
    rw [number?_of_magnitude_eq_infinity hmag, hneg]
  · intro hbound
    rw [isFinite_iff, hmag]
    exact lt_of_le_of_lt (min_le_right _ _) (hfinite hbound)
  · intro hbound y _
    obtain ⟨k, hk, -⟩ := exists_unitsAt_le y negative hq
    rw [hdist hbound]
    exact (div_le_div_of_nonneg_right (h k).1 hpos.le).trans hk
  · intro hbound y _ heq hne
    obtain ⟨k, hk, hvalue⟩ := exists_unitsAt_le y negative hq
    rw [heq, hdist hbound, div_le_div_iff_of_pos_right hpos] at hk
    rw [heq, hdist hbound, div_le_div_iff_of_pos_right hpos] at hvalue
    have hkm := (h k).1
    rw [even_significand_iff, hmag, min_eq_right (hfinite hbound).le]
    refine (h k).2 (le_antisymm hk hkm) ?_
    rintro rfl
    refine hne ?_
    rw [hvalue hkm, value_eq_signOf, hneg, hmag, min_eq_right (hfinite hbound).le]

/-- **Rounding a fraction.** -/
theorem isRounded_nearest (negative : Bool) (num : ℕ) {den : ℕ} (hden : 0 < den) :
    (nearest negative num den).IsRounded negative (signOf negative * (num / den)) := by
  obtain ⟨m, hm, hnearest⟩ := exists_isNearest num hden
  rw [nearest, hnearest]
  exact isRounded_ofMagnitude negative (by positivity) hm

/-! ## The nearest real is unique -/

lemma magnitude_of_number?_infinite {x : Binary64} {negative : Bool}
    (h : x.number? = some (.infinite negative)) : x.magnitude = infinity := by
  rw [number?] at h
  split_ifs at h with hnan hfinite
  · cases h
  · exact magnitude_eq_infinity (by simpa using hnan) (by simpa using hfinite)

/-- Two reals of different magnitude cannot both be nearest: with another one between them that
would be nearer, and without one between them one of the two is odd. -/
lemma IsRounded.not_magnitude_lt {x y : Binary64} {negative : Bool} {q : ℚ}
    (hx : x.IsRounded negative q) (hy : y.IsRounded negative q) (hbound : |q| < overflowBound) :
    ¬ x.magnitude < y.magnitude := by
  intro hlt
  have hpos := unitsPerOne_pos
  have hyfinite := isFinite_iff.1 (hy.finite hbound)
  have hbetween : x.magnitude + 1 < signWeight :=
    lt_of_lt_of_le (lt_of_le_of_lt hlt hyfinite) (by decide)
  have hunits := unitsAt_lt hlt
  -- all reals from here on are on one side of zero
  have hdist : ∀ z : Binary64, z.isNegative = negative → |z.value - q|
      = |(unitsAt z.magnitude : ℚ) - signOf negative * q * unitsPerOne| / unitsPerOne := by
    rintro z rfl
    exact abs_value_sub z q
  have hsame : |y.value - q| = |x.value - q| :=
    le_antisymm (hy.nearest hbound x (hx.finite hbound)) (hx.nearest hbound y (hy.finite hbound))
  have hvalue : y.value ≠ x.value := by
    intro heq
    rw [value_eq_signOf, value_eq_signOf, hx.isNegative_eq, hy.isNegative_eq] at heq
    have hfactor : signOf negative ≠ 0 := by cases negative <;> norm_num [signOf]
    rw [mul_right_inj' hfactor, div_left_inj' hpos.ne'] at heq
    exact hunits.ne' heq
  have hmid := hsame
  rw [hdist x hx.isNegative_eq, hdist y hy.isNegative_eq, div_left_inj' hpos.ne'] at hmid
  have hnext := hx.nearest hbound (ofMagnitude negative (x.magnitude + 1)) (by
    rw [isFinite_iff, magnitude_ofMagnitude negative hbetween]
    omega)
  rw [hdist x hx.isNegative_eq, hdist _ (isNegative_ofMagnitude negative hbetween),
    magnitude_ofMagnitude negative hbetween, div_le_div_iff_of_pos_right hpos] at hnext
  generalize signOf negative * q * unitsPerOne = p at hmid hnext
  rcases abs_eq_abs.1 hmid with heq | heq
  · linarith
  · have hy' : y.magnitude = x.magnitude + 1 := by
      by_contra hne
      have hright := unitsAt_lt (by omega : x.magnitude + 1 < y.magnitude)
      have hleft := unitsAt_lt (Nat.lt_succ_self x.magnitude)
      rw [abs_of_nonpos (by linarith : (unitsAt x.magnitude : ℚ) - p ≤ 0)] at hnext
      rcases abs_cases ((unitsAt (x.magnitude + 1) : ℚ) - p) with ⟨habs, -⟩ | ⟨habs, -⟩ <;>
        rw [habs] at hnext <;> linarith
    have hxeven := (even_significand_iff x).1 (hx.even hbound y (hy.finite hbound) hsame hvalue)
    have hyeven := (even_significand_iff y).1
      (hy.even hbound x (hx.finite hbound) hsame.symm hvalue.symm)
    rw [hy', Nat.even_add_one] at hyeven
    exact hyeven hxeven

/-- **Rounding has one result.** -/
theorem IsRounded.unique {x y : Binary64} {negative : Bool} {q : ℚ}
    (hx : x.IsRounded negative q) (hy : y.IsRounded negative q) : x = y := by
  have hmag : x.magnitude = y.magnitude := by
    rcases le_or_gt overflowBound |q| with hbound | hbound
    · rw [magnitude_of_number?_infinite (hx.infinite hbound),
        magnitude_of_number?_infinite (hy.infinite hbound)]
    · exact le_antisymm (not_lt.1 (hy.not_magnitude_lt hx hbound))
        (not_lt.1 (hx.not_magnitude_lt hy hbound))
  have hbits := bits_eq_iff.2 ⟨hx.isNegative_eq.trans hy.isNegative_eq.symm, hmag⟩
  cases x
  cases y
  exact congrArg _ hbits

/-! ## What rounding makes of numbers -/

section

variable {x y : Binary64} {negative : Bool} {q : ℚ}

/-- Finite reals are below the bound. -/
lemma abs_value_lt (hy : y.isFinite = true) : |y.value| < overflowBound := by
  have hpos := unitsPerOne_pos
  have hlast : (unitsAt y.magnitude : ℚ) ≤ unitsAt (infinity - 1) :=
    unitsAt_le (Nat.le_sub_one_of_lt (isFinite_iff.1 hy))
  have hnext : (unitsAt (infinity - 1) : ℚ) < unitsAt infinity := unitsAt_lt (by decide)
  have hbound := overflowBound_mul
  rw [value_eq_signOf, abs_signOf_mul, abs_of_nonneg (div_nonneg (Nat.cast_nonneg _) hpos.le),
    div_lt_iff₀ hpos]
  linarith

/-- **A number that some real denotes stays what it is.** -/
lemma IsRounded.value_eq (h : x.IsRounded negative q) (hy : y.isFinite = true)
    (hq : y.value = q) : x.isFinite = true ∧ x.value = q := by
  have hbound : |q| < overflowBound := hq ▸ abs_value_lt hy
  have hnear := h.nearest hbound y hy
  rw [hq, sub_self, abs_zero] at hnear
  exact ⟨h.finite hbound, sub_eq_zero.1 (abs_eq_zero.1 (le_antisymm hnear (abs_nonneg _)))⟩

lemma isFinite_of_number? {n : ℚ} (h : x.number? = some (.finite n)) : x.isFinite = true := by
  rw [number?] at h
  split_ifs at h with hnan hfinite
  · exact hfinite
  · cases h

lemma number?_of_isFinite (h : x.isFinite = true) : x.number? = some (.finite x.value) := by
  have hnan : x.isNaN = false := by
    have := isFinite_iff.1 h
    simp only [isNaN, decide_eq_false_iff_not, not_lt]
    omega
  simp [number?, hnan, h]

/-- **Rounding ends in a number**, never in a NaN. -/
lemma IsRounded.number? (h : x.IsRounded negative q) :
    x.number? = some (if overflowBound ≤ |q| then .infinite negative else .finite x.value) := by
  split_ifs with hbound
  · exact h.infinite hbound
  · exact number?_of_isFinite (h.finite (not_le.1 hbound))

lemma IsRounded.isNaN_eq (h : x.IsRounded negative q) : x.isNaN = false := by
  have hnumber := h.number?
  by_contra hnan
  rw [Binary64.number?, if_pos (by simpa using hnan)] at hnumber
  cases hnumber

/-- **A number rounds to infinity** exactly if it is out of bounds. -/
lemma IsRounded.isFinite_iff (h : x.IsRounded negative q) :
    x.isFinite = true ↔ |q| < overflowBound := by
  refine ⟨fun hfinite => not_le.1 fun hbound => ?_, h.finite⟩
  have hnumber := (number?_of_isFinite hfinite).symm.trans (h.infinite hbound)
  cases hnumber

/-- The greatest number that rounds to zero, half the least positive real. -/
def underflowBound : ℚ := 1 / 2 ^ 1075

/-- **A number rounds to zero** exactly if it is at most half the least positive real. -/
lemma IsRounded.isZero_iff (h : x.IsRounded negative (signOf negative * q)) (hq : 0 ≤ q) :
    x.isZero = true ↔ q ≤ underflowBound := by
  have hlt : nearestMagnitude q.num.natAbs q.den < signWeight :=
    lt_of_le_of_lt (min_le_left _ _) (by decide)
  have hfraction : (q.num.natAbs / q.den : ℚ) = q := by
    rw [Nat.cast_natAbs, abs_of_nonneg (Rat.num_nonneg.2 hq)]
    exact Rat.num_div_den q
  have hbound : underflowBound = 1 / (2 ^ 1074 * 2) := by rw [underflowBound, pow_succ]
  have hnearest := isRounded_nearest negative q.num.natAbs q.pos
  rw [hfraction] at hnearest
  rw [h.unique hnearest, isZero, beq_iff_eq, Binary64.nearest, magnitude_ofMagnitude negative hlt,
    nearestMagnitude_eq_zero_iff _ q.pos, hfraction, unitsPerOne_eq_pow, hbound]
  have hpos : (0 : ℚ) < 2 ^ 1074 := by positivity
  generalize (2 : ℚ) ^ 1074 = u at hpos
  rw [le_div_iff₀ two_pos, le_div_iff₀ (mul_pos hpos two_pos), mul_assoc]

end

end Binary64
end LooseEquality
