import LooseEquality.Numeral
import Mathlib.Data.List.Induction
import Mathlib.Tactic.Common

/-!
# Canonical numerals

Many texts denote one integer: a numeral may carry a `+`, leading zeros, and a `-` in front of a
zero.  A numeral without any of these is *canonical*.

* `Numeral.IsCanonical` — `0`, or an optional `-` and digits of which the first is no `0`.

**`eq_ofInt_iff`** characterises the text that the library writes for an integer without mentioning
how it is written: it is the canonical text that denotes the integer.
-/

namespace LooseEquality
namespace Numeral

/-- A numeral without a superfluous character. -/
inductive IsCanonical : List Char → Prop
  | zero : IsCanonical ['0']
  | positive {d : Char} {ds : List Char} (hd : d.isDigit = true) (hne : d ≠ '0')
      (hds : ∀ c ∈ ds, c.isDigit = true) : IsCanonical (d :: ds)
  | negative {d : Char} {ds : List Char} (hd : d.isDigit = true) (hne : d ≠ '0')
      (hds : ∀ c ∈ ds, c.isDigit = true) : IsCanonical ('-' :: d :: ds)

/-! ## Digits -/

lemma toNat_of_isDigit {c : Char} (h : c.isDigit = true) : 48 ≤ c.toNat ∧ c.toNat ≤ 57 := by
  simp only [Char.isDigit, Bool.and_eq_true, decide_eq_true_eq] at h
  exact h

/-- A digit stands for a number below ten, and is written back from it. -/
lemma digitChar_digitValue {c : Char} (h : c.isDigit = true) :
    digitValue c < 10 ∧ (digitValue c).digitChar = c := by
  have hrange := toNat_of_isDigit h
  have hlt : digitValue c < 10 := by
    simp only [digitValue, Char.reduceToNat]
    omega
  refine ⟨hlt, ?_⟩
  have hall : ∀ d : Fin 10, d.val.digitChar = Char.ofNat (48 + d.val) := by decide
  have hc : 48 + digitValue c = c.toNat := by
    simp only [digitValue, Char.reduceToNat]
    omega
  rw [hall ⟨_, hlt⟩, hc, Char.ofNat_toNat]

lemma digitValue_pos {c : Char} (h : c.isDigit = true) (hne : c ≠ '0') : 0 < digitValue c := by
  rcases Nat.eq_zero_or_pos (digitValue c) with hzero | hpos
  · have := (digitChar_digitValue h).2
    rw [hzero] at this
    exact absurd this.symm hne
  · exact hpos

lemma value_le_append (ds es : List Char) : value ds ≤ value (ds ++ es) := by
  induction es using List.reverseRecOn with
  | nil => simp
  | append_singleton es c ih =>
    rw [← List.append_assoc, value_concat]
    omega

/-- Digits that do not start with a zero denote a positive number. -/
lemma value_pos {d : Char} (hd : d.isDigit = true) (hne : d ≠ '0') (ds : List Char) :
    0 < value (d :: ds) := by
  have h : value [d] ≤ value (d :: ds) := value_le_append [d] ds
  have hval : value [d] = digitValue d := by simp [value]
  have := digitValue_pos hd hne
  omega

/-- **Digits without a leading zero are the digits of the number they denote.** -/
theorem digits_value {d : Char} (hd : d.isDigit = true) (hne : d ≠ '0') (ds : List Char)
    (hds : ∀ c ∈ ds, c.isDigit = true) : digits (value (d :: ds)) = d :: ds := by
  induction ds using List.reverseRecOn with
  | nil =>
    have hval : value [d] = digitValue d := by simp [value]
    obtain ⟨hlt, hchar⟩ := digitChar_digitValue hd
    rw [hval, digits, if_pos hlt, hchar]
  | append_singleton ds c ih =>
    have hc := digitChar_digitValue (hds c (by simp))
    have hpos := value_pos hd hne ds
    have hval : value (d :: (ds ++ [c])) = 10 * value (d :: ds) + digitValue c := by
      rw [← List.cons_append, value_concat]
    have hdiv : (10 * value (d :: ds) + digitValue c) / 10 = value (d :: ds) := by omega
    have hmod : (10 * value (d :: ds) + digitValue c) % 10 = digitValue c := by omega
    rw [hval, digits, if_neg (by omega), hdiv, hmod, hc.2,
      ih fun e he => hds e (List.mem_append_left _ he), List.cons_append]

/-- The digits of a positive number do not start with a zero. -/
lemma digits_pos {n : Nat} (h : 0 < n) :
    ∃ d ds, digits n = d :: ds ∧ d.isDigit = true ∧ d ≠ '0' ∧ ∀ c ∈ ds, c.isDigit = true := by
  fun_induction digits n with
  | case1 n hn =>
    refine ⟨n.digitChar, [], rfl, isDigit_digitChar hn, ?_, by simp⟩
    intro hzero
    have hval := digitValue_digitChar hn
    rw [hzero] at hval
    exact absurd hval (by simp [digitValue]; omega)
  | case2 n hn ih =>
    obtain ⟨d, ds, heq, hd, hne, hds⟩ := ih (by omega)
    refine ⟨d, ds ++ [(n % 10).digitChar], by rw [heq, List.cons_append], hd, hne, ?_⟩
    intro c hc
    rcases List.mem_append.1 hc with hc | hc
    · exact hds c hc
    · rw [List.mem_singleton.1 hc]
      exact isDigit_digitChar (Nat.mod_lt n (by decide))

/-! ## Signs -/

/-- A text that starts with a digit carries no sign. -/
lemma splitSign_of_isDigit {d : Char} (hd : d.isDigit = true) (ds : List Char) :
    splitSign (d :: ds) = (false, d :: ds) := by
  unfold splitSign
  split
  · next heq => cases heq; exact absurd hd (by decide)
  · next heq => cases heq; exact absurd hd (by decide)
  · rfl

/-- Reading digits gives the number they denote. -/
lemma toInt?_of_isDigit {d : Char} {ds : List Char} (hd : d.isDigit = true)
    (hds : ∀ c ∈ ds, c.isDigit = true) : toInt? (d :: ds) = some (value (d :: ds) : Int) := by
  have hall : (d :: ds).all Char.isDigit = true :=
    List.all_eq_true.2 (List.forall_mem_cons.2 ⟨hd, hds⟩)
  simp [toInt?, splitSign_of_isDigit hd, hall]

lemma toInt?_of_minus {d : Char} {ds : List Char} (hd : d.isDigit = true)
    (hds : ∀ c ∈ ds, c.isDigit = true) :
    toInt? ('-' :: d :: ds) = some (-(value (d :: ds) : Int)) := by
  have hall : (d :: ds).all Char.isDigit = true :=
    List.all_eq_true.2 (List.forall_mem_cons.2 ⟨hd, hds⟩)
  simp [toInt?, splitSign, hall]

lemma ofInt_natCast (n : Nat) : (ofInt n).toList = digits n := by
  show (String.ofList (digits n)).toList = digits n
  rw [String.toList_ofList]

lemma ofInt_neg {n : Nat} (h : 0 < n) : (ofInt (-(n : Int))).toList = '-' :: digits n := by
  obtain ⟨m, rfl⟩ : ∃ m, n = m + 1 := ⟨n - 1, by omega⟩
  have hminus : "-".toList = ['-'] := rfl
  show ("-" ++ ofNat (m + 1)).toList = '-' :: digits (m + 1)
  rw [String.toList_append, hminus, ofNat, String.toList_ofList, List.cons_append, List.nil_append]

lemma ofInt_zero : (ofInt 0).toList = ['0'] := by
  rw [← Int.ofNat_zero, ofInt_natCast, digits, if_pos (by decide)]
  rfl

/-- What the library writes for an integer is canonical and reads back as that integer. -/
lemma isCanonical_ofInt (i : Int) :
    IsCanonical (ofInt i).toList ∧ toInt? (ofInt i).toList = some i := by
  rcases Int.lt_trichotomy i 0 with hneg | rfl | hpos
  · obtain ⟨n, rfl⟩ : ∃ n : Nat, i = -(n : Int) := ⟨i.natAbs, by omega⟩
    have hn : 0 < n := by omega
    obtain ⟨d, ds, heq, hd, hne, hds⟩ := digits_pos hn
    rw [ofInt_neg hn, heq]
    refine ⟨.negative hd hne hds, ?_⟩
    rw [toInt?_of_minus hd hds, ← heq, value_digits]
  · rw [ofInt_zero]
    exact ⟨.zero, by decide⟩
  · obtain ⟨n, rfl⟩ : ∃ n : Nat, i = n := ⟨i.natAbs, by omega⟩
    obtain ⟨d, ds, heq, hd, hne, hds⟩ := digits_pos (Int.natCast_pos.1 hpos)
    rw [ofInt_natCast, heq]
    refine ⟨.positive hd hne hds, ?_⟩
    rw [toInt?_of_isDigit hd hds, ← heq, value_digits]

/-- **The text of an integer is the canonical text that denotes it.** -/
theorem eq_ofInt_iff {s : String} {i : Int} :
    s = ofInt i ↔ IsCanonical s.toList ∧ toInt? s.toList = some i := by
  constructor
  · rintro rfl
    exact isCanonical_ofInt i
  · rintro ⟨hcanon, hread⟩
    rw [← String.toList_inj]
    generalize s.toList = cs at hcanon hread
    cases hcanon with
    | zero =>
      have : i = 0 := by simpa [toInt?, splitSign, value, digitValue] using hread.symm
      rw [this, ofInt_zero]
    | positive hd hne hds =>
      rw [toInt?_of_isDigit hd hds] at hread
      rw [← Option.some.inj hread, ofInt_natCast, digits_value hd hne _ hds]
    | negative hd hne hds =>
      rw [toInt?_of_minus hd hds] at hread
      rw [← Option.some.inj hread, ofInt_neg (value_pos hd hne _), digits_value hd hne _ hds]

end Numeral
end LooseEquality
