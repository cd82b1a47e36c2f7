import LooseEquality.Equality
import LooseEquality.Literal
import LooseEquality.Proofs.Numeral.Signed
import Mathlib.Data.Nat.Digits.Defs

/-!
# Literals of integers

A literal of an integer may be any of the texts that denote it, with a sign and leading zeros or
without, as long as the integer has 64 bits.  A string equals an integer only if it is the text that
the library writes for the integer.  So strings are compared by a part of what literals may be: the
canonical texts.

* `Numeral.Sign.decimal` — the integer that a sign and digits denote, each digit by its position.

**`integer_eq_signed_digits`** says which texts are literals and what of, that what is written reads
back, and which string equals an integer.
-/

namespace LooseEquality

namespace Numeral

/-- The integer that digits denote behind a sign: the digit with `k` others behind it counts for
`10 ^ k` times what it is. -/
def Sign.decimal (s : Sign) (ds : Digits) : Int :=
  s.apply (Nat.ofDigits 10 (ds.val.reverse.map digitValue))

lemma value_eq_ofDigits (ds : List Char) :
    value ds = Nat.ofDigits 10 (ds.reverse.map digitValue) := by
  induction ds using List.reverseRecOn with
  | nil => simp [value]
  | append_singleton ds c ih =>
    rw [value_concat, ih, List.reverse_concat, List.map_cons, Nat.ofDigits_cons]
    omega

/-- Reading a numeral, by the positions of its digits. -/
lemma toInt?_eq_some_iff_decimal {cs : List Char} {n : Int} :
    toInt? cs = some n ↔ ∃ (s : Sign) (ds : Digits), cs = s.text ++ ds.val ∧ n = s.decimal ds := by
  simp only [toInt?_eq_some_iff, Sign.decimal, value_eq_ofDigits]

end Numeral

namespace Literal

open Numeral (Sign Digits)

variable {text : String} {i : Int64}

/-- **Reading an integer** is reading a numeral, and the integer has to fit. -/
theorem integer?_eq_some_iff :
    integer? text = some i ↔ Numeral.toInt? text.toList = some i.toInt := by
  rw [integer?]
  split
  · next n hn =>
    rw [hn, Option.some.injEq, Int64.toInt_minValue, Int64.toInt_maxValue]
    split_ifs with hrange
    · have hfits := Int64.toInt_ofInt_of_le hrange.1 (by omega)
      rw [Option.some.injEq, ← Int64.toInt_inj, hfits]
    · refine iff_of_false (by simp) ?_
      rintro rfl
      have hle := i.le_toInt
      have hlt := i.toInt_lt
      omega
  · next hnone => simp [hnone]

lemma integer_eq_ok_iff {v : Value} :
    integer text = .ok v ↔ ∃ i, Numeral.toInt? text.toList = some (Int64.toInt i) ∧
      v = .integer i := by
  simp only [← integer?_eq_some_iff, integer]
  cases integer? text with
  | none => simp [orInvalid]
  | some j => simp [orInvalid, eq_comm]

/-- A text that is no literal is at fault, and it is the only thing that is. -/
lemma integer_eq_error_iff {fault : Fault} :
    integer text = .error fault ↔ fault = .invalidLiteral .integer text ∧
      ∀ i, Numeral.toInt? text.toList ≠ some (Int64.toInt i) := by
  simp only [← integer?_eq_some_iff, integer, ne_eq]
  cases integer? text with
  | none => simp [orInvalid, eq_comm]
  | some j => simp [orInvalid]

/-- **A string equals an integer** if it is a literal of the integer and canonical. -/
theorem equal_integer_string_iff (truthiness : Truthiness) (heap : Heap) :
    Equality.evaluate truthiness heap .equal (.integer i) (.string text) = .ok true ↔
      integer text = .ok (.integer i) ∧ Numeral.IsCanonical text.toList := by
  have hevaluate : Equality.evaluate truthiness heap .equal (.integer i) (.string text)
      = .ok (text == Numeral.ofInt i.toInt) := rfl
  rw [hevaluate, Except.ok.injEq, beq_iff_eq, Numeral.eq_ofInt_iff, integer_eq_ok_iff, and_comm]
  simp

lemma equal_string_integer (truthiness : Truthiness) (heap : Heap) :
    Equality.evaluate truthiness heap .equal (.string text) (.integer i)
      = Equality.evaluate truthiness heap .equal (.integer i) (.string text) := rfl

/-- **Literals of integers** are a sign or none and digits, if the number they denote has 64 bits;
every other text is at fault.  What is written for an integer is one of its literals.  And it is the
one string that equals the integer, in either order: of the literals, the canonical one. -/
theorem integer_eq_signed_digits :
    (∀ text v, integer text = .ok v ↔ ∃ (s : Sign) (ds : Digits) (i : Int64),
      text.toList = s.text ++ ds.val ∧ i.toInt = s.decimal ds ∧ v = .integer i) ∧
    (∀ text fault, integer text = .error fault ↔ fault = .invalidLiteral .integer text ∧
      ∀ (s : Sign) (ds : Digits), text.toList = s.text ++ ds.val →
        s.decimal ds < -2 ^ 63 ∨ 2 ^ 63 ≤ s.decimal ds) ∧
    (∀ i : Int64, integer (Numeral.ofInt i.toInt) = .ok (.integer i)) ∧
    ∀ (truthiness : Truthiness) (heap : Heap) (i : Int64),
      (∀ text,
        (Equality.evaluate truthiness heap .equal (.integer i) (.string text) = .ok true ↔
          integer text = .ok (.integer i) ∧ Numeral.IsCanonical text.toList) ∧
        (Equality.evaluate truthiness heap .equal (.string text) (.integer i) = .ok true ↔
          integer text = .ok (.integer i) ∧ Numeral.IsCanonical text.toList)) ∧
      ∃! text, Equality.evaluate truthiness heap .equal (.integer i) (.string text)
        = .ok true := by
  refine ⟨fun text v => ?_, fun text fault => ?_, fun i => ?_, fun truthiness heap i => ⟨?_, ?_⟩⟩
  · simp only [integer_eq_ok_iff, Numeral.toInt?_eq_some_iff_decimal]
    constructor
    · rintro ⟨i, ⟨s, ds, htext, hi⟩, hv⟩
      exact ⟨s, ds, i, htext, hi, hv⟩
    · rintro ⟨s, ds, i, htext, hi, hv⟩
      exact ⟨i, ⟨s, ds, htext, hi⟩, hv⟩
  · rw [integer_eq_error_iff]
    refine and_congr_right fun _ => ⟨fun h s ds htext => ?_, fun h i hread => ?_⟩
    · by_contra hrange
      simp only [not_or, not_lt, not_le] at hrange
      refine h (Int64.ofInt (s.decimal ds)) (Numeral.toInt?_eq_some_iff_decimal.2 ?_)
      exact ⟨s, ds, htext, Int64.toInt_ofInt_of_le hrange.1 hrange.2⟩
    · obtain ⟨s, ds, htext, hi⟩ := Numeral.toInt?_eq_some_iff_decimal.1 hread
      have hle := i.le_toInt
      have hlt := i.toInt_lt
      have := h s ds htext
      omega
  · exact integer_eq_ok_iff.2 ⟨i, (Numeral.isCanonical_ofInt i.toInt).2, rfl⟩
  · intro text
    rw [equal_string_integer]
    exact ⟨equal_integer_string_iff truthiness heap, equal_integer_string_iff truthiness heap⟩
  · refine ⟨Numeral.ofInt i.toInt, ?_, fun text h => ?_⟩
    · show Except.ok (Numeral.ofInt i.toInt == Numeral.ofInt i.toInt) = .ok true
      rw [beq_self_eq_true]
    · exact beq_iff_eq.1 (Except.ok.inj h)

end Literal
end LooseEquality
