import LooseEquality.Proofs.Binary64
import Mathlib.Algebra.Order.Field.Basic

/-!
# The nearest magnitude

Rounding looks for a magnitude.  Seen from here the magnitudes are a line of numbers, each with a
count of units, and the line goes on beyond infinity as if there were no end to the exponents; that
the reals stop there is brought in at the very end, by taking the smaller of two magnitudes.

* `Binary64.unitsAt` — the count of units at a magnitude;
* `Binary64.IsNearest` — a magnitude whose count is nearest to a given number of units, and which is
  even if another one is as near.

**`exists_isNearest`** says that rounding a fraction finds the nearest magnitude.  Where the line
ends on either side is settled by `IsNearest.eq_zero_iff` and **`IsNearest.infinity_le_iff`**.

Only two magnitudes can be nearest to a number, the one below it and the one above
(`isNearest_of_between`), since counts grow along the line.  In between two doublings they grow by
the same amount, so there a magnitude is a number of steps (`unitsAt_spaced`), and rounding to the
nearest magnitude is rounding to the nearest multiple of the step (`isNearest_roundDiv`).
-/

namespace LooseEquality
namespace Binary64

/-! ## The line of magnitudes -/

/-- The count of units at a magnitude, whether or not it is below infinity. -/
def unitsAt (m : ℕ) : ℕ :=
  if m / exponentWeight = 0 then m % exponentWeight
  else (exponentWeight + m % exponentWeight) <<< (m / exponentWeight - 1)

lemma units_eq_unitsAt (x : Binary64) : x.units = unitsAt x.magnitude := rfl

lemma exponentWeight_pos : 0 < exponentWeight := by decide

/-- Adding to a magnitude adds as many steps of `2 ^ s` units to its count, until they double. -/
lemma unitsAt_spaced {s q : ℕ} (hs : s = 0 ∨ exponentWeight ≤ q) (hq : q ≤ 2 * exponentWeight) :
    unitsAt (s * exponentWeight + q) = q * 2 ^ s := by
  have hsplit : ∀ e f, f < exponentWeight →
      (e * exponentWeight + f) / exponentWeight = e ∧
        (e * exponentWeight + f) % exponentWeight = f := by
    intro e f hf
    rw [Nat.add_comm, Nat.mul_comm, Nat.add_mul_div_left _ _ exponentWeight_pos,
      Nat.add_mul_mod_self_left, Nat.div_eq_of_lt hf, Nat.mod_eq_of_lt hf]
    exact ⟨Nat.zero_add e, rfl⟩
  rcases Nat.lt_or_ge q exponentWeight with hlt | hge
  · obtain rfl : s = 0 := by omega
    obtain ⟨hdiv, hmod⟩ := hsplit 0 q hlt
    rw [unitsAt, hdiv, hmod, if_pos rfl, pow_zero, mul_one]
  · rcases hq.lt_or_eq with hlt | rfl
    · obtain ⟨f, rfl⟩ := Nat.exists_eq_add_of_le hge
      obtain ⟨hdiv, hmod⟩ := hsplit (s + 1) f (by omega)
      have hm : s * exponentWeight + (exponentWeight + f) = (s + 1) * exponentWeight + f := by ring
      rw [hm, unitsAt, hdiv, hmod, if_neg (Nat.succ_ne_zero s), Nat.add_sub_cancel,
        Nat.shiftLeft_eq]
    · obtain ⟨hdiv, hmod⟩ := hsplit (s + 2) 0 exponentWeight_pos
      have hm : s * exponentWeight + 2 * exponentWeight = (s + 2) * exponentWeight + 0 := by ring
      have hexp : s + 2 - 1 = s + 1 := rfl
      rw [hm, unitsAt, hdiv, hmod, if_neg (Nat.succ_ne_zero _), hexp, Nat.shiftLeft_eq]
      ring

/-- Every magnitude is some steps beyond a doubling, or beyond zero. -/
lemma exists_spaced (m : ℕ) :
    ∃ s q, m = s * exponentWeight + q ∧ (s = 0 ∨ exponentWeight ≤ q) ∧ q < 2 * exponentWeight := by
  rcases Nat.lt_or_ge m (2 * exponentWeight) with hlt | hge
  · exact ⟨0, m, by omega, .inl rfl, hlt⟩
  · have hmod := Nat.mod_lt m exponentWeight_pos
    obtain ⟨s, hs⟩ : ∃ s, m / exponentWeight = s + 1 :=
      Nat.exists_eq_succ_of_ne_zero (Nat.div_pos (by omega) exponentWeight_pos).ne'
    have hm : m = (s + 1) * exponentWeight + m % exponentWeight := by
      rw [← hs, Nat.mul_comm]
      exact (Nat.div_add_mod m exponentWeight).symm
    refine ⟨s, exponentWeight + m % exponentWeight, ?_, .inr (Nat.le_add_right _ _), by omega⟩
    rw [← Nat.add_assoc, ← Nat.succ_mul]
    exact hm

lemma strictMono_unitsAt : StrictMono unitsAt := by
  refine strictMono_nat_of_lt_succ fun m => ?_
  obtain ⟨s, q, rfl, hs, hq⟩ := exists_spaced m
  rw [Nat.add_assoc, unitsAt_spaced hs hq.le, unitsAt_spaced (hs.imp_right fun h => by omega) hq]
  exact Nat.mul_lt_mul_of_pos_right (Nat.lt_succ_self q) (by positivity)

/-! ## The nearest of them -/

/-- No magnitude is nearer to `x` units, and if there is one that is as near, this one is even. -/
def IsNearest (x : ℚ) (m : ℕ) : Prop :=
  ∀ k, |(unitsAt m : ℚ) - x| ≤ |(unitsAt k : ℚ) - x| ∧
    (|(unitsAt k : ℚ) - x| = |(unitsAt m : ℚ) - x| → k ≠ m → Even m)

lemma unitsAt_le {k m : ℕ} (h : k ≤ m) : (unitsAt k : ℚ) ≤ unitsAt m :=
  Nat.cast_le.2 (strictMono_unitsAt.monotone h)

lemma unitsAt_lt {k m : ℕ} (h : k < m) : (unitsAt k : ℚ) < unitsAt m :=
  Nat.cast_lt.2 (strictMono_unitsAt h)

/-- The magnitudes around a number are all that have to be compared. -/
lemma isNearest_of_between {x : ℚ} {l m : ℕ} (hl : (unitsAt l : ℚ) ≤ x)
    (hr : x ≤ unitsAt (l + 1)) (hm : m = l ∨ m = l + 1)
    (hml : |(unitsAt m : ℚ) - x| ≤ x - unitsAt l)
    (hmr : |(unitsAt m : ℚ) - x| ≤ unitsAt (l + 1) - x)
    (htie : x - unitsAt l = unitsAt (l + 1) - x → Even m) : IsNearest x m := by
  have hself : ∀ k, m = k → |(unitsAt m : ℚ) - x| = |(unitsAt k : ℚ) - x| := by
    rintro k rfl
    rfl
  intro k
  rcases Nat.lt_or_ge l k with hlt | hge
  · have hk : (unitsAt (l + 1) : ℚ) ≤ unitsAt k := unitsAt_le hlt
    rw [abs_of_nonneg (by linarith : 0 ≤ (unitsAt k : ℚ) - x)]
    refine ⟨by linarith, fun heq hne => ?_⟩
    have hk' : k = l + 1 := by
      by_contra hk'
      have := unitsAt_lt (lt_of_le_of_ne hlt (Ne.symm hk'))
      linarith
    subst hk'
    have hml' : m = l := hm.resolve_right (Ne.symm hne)
    subst hml'
    rw [abs_of_nonpos (by linarith)] at heq
    exact htie (by linarith)
  · have hk : (unitsAt k : ℚ) ≤ unitsAt l := unitsAt_le hge
    rw [abs_of_nonpos (by linarith : (unitsAt k : ℚ) - x ≤ 0)]
    refine ⟨by linarith, fun heq hne => ?_⟩
    have hk' : k = l := by
      by_contra hk'
      have := unitsAt_lt (lt_of_le_of_ne hge hk')
      linarith
    subst hk'
    have hmr' : m = k + 1 := hm.resolve_left (Ne.symm hne)
    subst hmr'
    rw [abs_of_nonneg (by linarith)] at heq
    exact htie (by linarith)

/-- The magnitude below a number, if it is not the farther one. -/
lemma isNearest_below {x : ℚ} {l : ℕ} (hl : (unitsAt l : ℚ) ≤ x) (hr : x ≤ unitsAt (l + 1))
    (hnear : x - unitsAt l ≤ unitsAt (l + 1) - x)
    (htie : x - unitsAt l = unitsAt (l + 1) - x → Even l) : IsNearest x l := by
  have habs : |(unitsAt l : ℚ) - x| = x - unitsAt l := by
    rw [abs_of_nonpos (by linarith), neg_sub]
  exact isNearest_of_between hl hr (.inl rfl) habs.le (habs.trans_le hnear) htie

/-- The magnitude above a number, if it is not the farther one. -/
lemma isNearest_above {x : ℚ} {l : ℕ} (hl : (unitsAt l : ℚ) ≤ x) (hr : x ≤ unitsAt (l + 1))
    (hnear : unitsAt (l + 1) - x ≤ x - unitsAt l)
    (htie : x - unitsAt l = unitsAt (l + 1) - x → Even (l + 1)) : IsNearest x (l + 1) := by
  have habs : |(unitsAt (l + 1) : ℚ) - x| = unitsAt (l + 1) - x := abs_of_nonneg (by linarith)
  exact isNearest_of_between hl hr (.inr rfl) (habs.trans_le hnear) habs.le htie

/-- Rounding a quotient goes down or up, depending on twice the remainder, and to an even number in
between. -/
lemma roundDiv_cases (num den : ℕ) :
    (2 * (num % den) < den ∧ roundDiv num den = num / den) ∨
      (den < 2 * (num % den) ∧ roundDiv num den = num / den + 1) ∨
      (2 * (num % den) = den ∧ Even (roundDiv num den) ∧
        (roundDiv num den = num / den ∨ roundDiv num den = num / den + 1)) := by
  rw [roundDiv]
  split_ifs with hlt hgt
  · exact .inl ⟨hlt, rfl⟩
  · exact .inr (.inl ⟨hgt, rfl⟩)
  · exact .inr (.inr ⟨by omega, by rw [Nat.even_iff]; omega, by omega⟩)

/-- How far a fraction is from the magnitudes around it, if its quotient counts their steps. -/
lemma distances_of_spaced {num den s : ℕ} (hden : 0 < den)
    (hs : s = 0 ∨ exponentWeight ≤ num / (den <<< s))
    (hq : num / (den <<< s) < 2 * exponentWeight) :
    (num / den : ℚ) - unitsAt (s * exponentWeight + num / (den <<< s))
        = (num % (den <<< s) : ℕ) / den ∧
      unitsAt (s * exponentWeight + num / (den <<< s) + 1) - (num / den : ℚ)
        = ((den <<< s : ℕ) - (num % (den <<< s) : ℕ)) / den := by
  have hd : (0 : ℚ) < den := Nat.cast_pos.2 hden
  have hnum := Nat.div_add_mod num (den <<< s)
  generalize num / (den <<< s) = q at *
  generalize num % (den <<< s) = r at *
  rw [Nat.shiftLeft_eq] at *
  rw [Nat.add_assoc, unitsAt_spaced hs hq.le, unitsAt_spaced (hs.imp_right fun h => by omega) hq,
    ← hnum]
  push_cast
  constructor
  · field_simp
    ring
  · field_simp
    ring

/-- **Rounding to a number of steps gives the nearest magnitude**, if the steps are those of the
magnitudes around. -/
lemma isNearest_roundDiv {num den s : ℕ} (hden : 0 < den)
    (hs : s = 0 ∨ exponentWeight ≤ num / (den <<< s))
    (hq : num / (den <<< s) < 2 * exponentWeight) :
    IsNearest (num / den : ℚ) (s * exponentWeight + roundDiv num (den <<< s)) := by
  have hd : (0 : ℚ) < den := Nat.cast_pos.2 hden
  have hcases := roundDiv_cases num (den <<< s)
  have hr : num % (den <<< s) < den <<< s :=
    Nat.mod_lt _ (by rw [Nat.shiftLeft_eq]; positivity)
  obtain ⟨hdown, hup⟩ := distances_of_spaced hden hs hq
  generalize roundDiv num (den <<< s) = k at hcases
  generalize num / (den <<< s) = q at *
  generalize num % (den <<< s) = r at *
  generalize den <<< s = step at *
  have hr' : (r : ℚ) < step := Nat.cast_lt.2 hr
  have hl : (unitsAt (s * exponentWeight + q) : ℚ) ≤ num / den := by
    have := div_nonneg (Nat.cast_nonneg r) hd.le
    linarith
  have hu : (num / den : ℚ) ≤ unitsAt (s * exponentWeight + q + 1) := by
    have := div_nonneg (sub_nonneg.2 hr'.le) hd.le
    linarith
  rcases hcases with ⟨hlt, rfl⟩ | ⟨hgt, rfl⟩ | ⟨heq, heven, hk⟩
  · have hcloser : (r / den : ℚ) < (step - r) / den := by
      have hlt' : (2 * r : ℚ) < step := by exact_mod_cast hlt
      exact div_lt_div_of_pos_right (by linarith) hd
    exact isNearest_below hl hu (by linarith) fun htie => absurd htie (by linarith)
  · have hcloser : ((step - r) / den : ℚ) < r / den := by
      have hgt' : (step : ℚ) < 2 * r := by exact_mod_cast hgt
      exact div_lt_div_of_pos_right (by linarith) hd
    rw [← Nat.add_assoc]
    exact isNearest_above hl hu (by linarith) fun htie => absurd htie (by linarith)
  · have hsame : (r / den : ℚ) = (step - r) / den := by
      have heq' : (2 * r : ℚ) = step := by exact_mod_cast heq
      rw [← heq']
      ring
    have hmeven : Even (s * exponentWeight + k) :=
      (Even.mul_left (by decide : Even exponentWeight) s).add heven
    rcases hk with rfl | rfl
    · exact isNearest_below hl hu (by linarith) fun _ => hmeven
    · rw [← Nat.add_assoc] at hmeven ⊢
      exact isNearest_above hl hu (by linarith) fun _ => hmeven

/-- **Rounding finds the nearest magnitude**, or infinity if that comes first. -/
theorem exists_isNearest (num : ℕ) {den : ℕ} (hden : 0 < den) :
    ∃ m, IsNearest (num / den * unitsPerOne : ℚ) m ∧ nearestMagnitude num den = min infinity m := by
  have hlog := Nat.lt_log2_self (n := num * unitsPerOne / den)
  have hself : num * unitsPerOne / den ≠ 0 →
      2 ^ (num * unitsPerOne / den).log2 ≤ num * unitsPerOne / den := Nat.log2_self_le
  have hdiv : ∀ s, num * unitsPerOne / (den <<< s) = num * unitsPerOne / den / 2 ^ s := by
    intro s
    rw [Nat.shiftLeft_eq, Nat.div_div_eq_div_mul]
  have hx : (num / den * unitsPerOne : ℚ) = (num * unitsPerOne : ℕ) / den := by
    push_cast
    ring
  rw [hx]
  refine ⟨_, isNearest_roundDiv hden ?_ ?_, rfl⟩
  · rw [hdiv]
    generalize num * unitsPerOne / den = n at *
    rcases Nat.eq_zero_or_pos (n.log2 - 52) with hzero | hpos
    · exact .inl hzero
    · right
      have hn : n ≠ 0 := by
        rintro rfl
        simp at hpos
      rw [Nat.le_div_iff_mul_le (by positivity)]
      calc exponentWeight * 2 ^ (n.log2 - 52) = 2 ^ 52 * 2 ^ (n.log2 - 52) := rfl
        _ = 2 ^ n.log2 := by rw [← pow_add]; congr 1; omega
        _ ≤ n := hself hn
  · rw [hdiv]
    generalize num * unitsPerOne / den = n at *
    rw [Nat.div_lt_iff_lt_mul (by positivity)]
    calc n < 2 ^ (n.log2 + 1) := hlog
      _ ≤ 2 ^ (53 + (n.log2 - 52)) := Nat.pow_le_pow_right (by decide) (by omega)
      _ = 2 * exponentWeight * 2 ^ (n.log2 - 52) := by rw [pow_add]; rfl

/-! ## Both ends of the line -/

lemma unitsPerOne_eq : unitsPerOne = 2 ^ 1074 := by
  have h : ∀ n, 1 <<< n = 2 ^ n := Nat.one_shiftLeft
  exact h 1074

lemma unitsPerOne_eq_pow : (unitsPerOne : ℚ) = 2 ^ 1074 :=
  unitsPerOne_cast.trans (zpow_natCast 2 1074)

/-- The number halfway between the largest finite real and the one that would follow it. -/
def overflowBound : ℚ := 2 ^ 1024 - 2 ^ 970

lemma unitsAt_zero : unitsAt 0 = 0 := by decide

lemma unitsAt_one : unitsAt 1 = 1 := by decide

/-- The count of the magnitude that would follow the largest finite one. -/
lemma unitsAt_infinity : unitsAt infinity = 2 * exponentWeight * 2 ^ 2045 :=
  unitsAt_spaced (s := 2045) (q := 2 * exponentWeight) (.inr (by decide)) le_rfl

lemma overflowBound_mul :
    overflowBound * unitsPerOne = (unitsAt (infinity - 1) + unitsAt infinity : ℚ) / 2 := by
  have hlast : unitsAt (infinity - 1) = (2 * exponentWeight - 1) * 2 ^ 2045 :=
    unitsAt_spaced (s := 2045) (q := 2 * exponentWeight - 1) (.inr (by decide)) (by decide)
  have hweight : (2 * exponentWeight : ℚ) = 2 ^ 53 := by
    norm_num [exponentWeight]
  have hbound : (2 : ℚ) ^ 1024 = 2 ^ 970 * 2 ^ 54 := by rw [← pow_add]
  have hhalf : (2 : ℚ) ^ 2045 = 2 ^ 970 * 2 ^ 1074 * 2 := by
    rw [← pow_add, ← pow_succ]
  rw [overflowBound, hlast, unitsAt_infinity, unitsPerOne_eq_pow, hbound]
  simp only [Nat.cast_mul, Nat.cast_sub (by decide : 1 ≤ 2 * exponentWeight), Nat.cast_pow,
    Nat.cast_ofNat, Nat.cast_one, hweight, hhalf]
  generalize (2 : ℚ) ^ 970 = a
  generalize (2 : ℚ) ^ 1074 = b
  ring

/-- **What goes beyond the finite reals** is what is not below the bound.  The bound itself is as
near to the largest of them as to the magnitude of infinity, and the latter is even. -/
lemma IsNearest.infinity_le_iff {x : ℚ} {m : ℕ} (h : IsNearest x m) :
    infinity ≤ m ↔ overflowBound * unitsPerOne ≤ x := by
  have hlt : (unitsAt (infinity - 1) : ℚ) < unitsAt infinity := unitsAt_lt (by decide)
  rw [overflowBound_mul]
  constructor
  · intro hm
    have hm' : (unitsAt infinity : ℚ) ≤ unitsAt m := unitsAt_le hm
    have hnear := (h (infinity - 1)).1
    by_contra hx
    rw [abs_of_nonneg (by linarith)] at hnear
    rcases abs_cases ((unitsAt (infinity - 1) : ℚ) - x) with ⟨heq, -⟩ | ⟨heq, -⟩ <;>
      rw [heq] at hnear <;> linarith
  · intro hx
    by_contra hm
    have hm' : (unitsAt m : ℚ) ≤ unitsAt (infinity - 1) := unitsAt_le (by omega)
    obtain ⟨hnear, htie⟩ := h infinity
    rw [abs_of_nonpos (by linarith : (unitsAt m : ℚ) - x ≤ 0)] at hnear htie
    rcases abs_cases ((unitsAt infinity : ℚ) - x) with ⟨heq, hpos⟩ | ⟨heq, hneg⟩
    · rw [heq] at hnear htie
      have hlast : m = infinity - 1 := by
        by_contra hne
        have : (unitsAt m : ℚ) < unitsAt (infinity - 1) := unitsAt_lt (by omega)
        linarith
      subst hlast
      exact absurd (htie (by linarith) (by decide)) (by decide)
    · rw [heq] at hnear
      linarith

/-- Zero is nearest up to half a unit, and then it is even. -/
lemma IsNearest.eq_zero_iff {x : ℚ} {m : ℕ} (h : IsNearest x m) (hx : 0 ≤ x) :
    m = 0 ↔ x ≤ 1 / 2 := by
  constructor
  · rintro rfl
    have hnear := (h 1).1
    rw [unitsAt_zero, unitsAt_one, Nat.cast_zero, Nat.cast_one, zero_sub, abs_neg,
      abs_of_nonneg hx] at hnear
    rcases abs_cases (1 - x) with ⟨heq, -⟩ | ⟨heq, -⟩ <;> rw [heq] at hnear <;> linarith
  · intro hhalf
    by_contra hm
    have hm' : (1 : ℚ) ≤ unitsAt m := by
      have := unitsAt_le (Nat.one_le_iff_ne_zero.2 hm)
      rwa [unitsAt_one, Nat.cast_one] at this
    obtain ⟨hnear, htie⟩ := h 0
    rw [unitsAt_zero, Nat.cast_zero, zero_sub, abs_neg, abs_of_nonneg hx,
      abs_of_nonneg (by linarith : (0 : ℚ) ≤ unitsAt m - x)] at hnear htie
    have hone : m = 1 := by
      by_contra hne
      have := unitsAt_lt (by omega : 1 < m)
      rw [unitsAt_one, Nat.cast_one] at this
      linarith
    exact absurd (htie (by linarith) (Ne.symm hm)) (by rw [hone]; decide)

/-- **A fraction is rounded to infinity** exactly if it is not below the bound. -/
lemma nearestMagnitude_eq_infinity_iff (num : ℕ) {den : ℕ} (hden : 0 < den) :
    nearestMagnitude num den = infinity ↔ overflowBound ≤ num / den := by
  obtain ⟨m, hm, hnearest⟩ := exists_isNearest num hden
  rw [hnearest, min_eq_left_iff, hm.infinity_le_iff, mul_le_mul_iff_left₀ unitsPerOne_pos]

/-- **A fraction is rounded to zero** exactly if it is at most half a unit. -/
lemma nearestMagnitude_eq_zero_iff (num : ℕ) {den : ℕ} (hden : 0 < den) :
    nearestMagnitude num den = 0 ↔ (num / den * unitsPerOne : ℚ) ≤ 1 / 2 := by
  have hinfinity : infinity ≠ 0 := by decide
  obtain ⟨m, hm, hnearest⟩ := exists_isNearest num hden
  rw [hnearest, ← hm.eq_zero_iff (mul_nonneg (by positivity) unitsPerOne_pos.le)]
  omega

end Binary64
end LooseEquality
