import LooseEquality.Proofs.Equality

/-!
# Integers and reals as numbers

Integers and reals are two kinds of numbers, and a comparison between two of them, of one kind or of
both, is about the numbers alone: not about their kinds, and not about the patterns of reals.

* `Value.number?` — the number that an integer or a real denotes;
* `Value.IsNumeric`, `Value.IsNumber` — the integers and reals, and those of them that denote a
  number.

**`equal_iff_same_number`** says that values of these kinds are equal exactly if they denote the
same number, and that equality is therefore an equivalence where there are numbers to compare.  Only
a NaN is left out, which is not even equal to itself.
-/

namespace LooseEquality
namespace Value

/-- The number that a value denotes.  Booleans and texts do not, even if they equal an integer. -/
def number? : Value → Option Binary64.Number
  | integer i => some (.finite i.toInt)
  | real r => r.number?
  | _ => none

/-- An integer or a real. -/
def IsNumeric (v : Value) : Prop := v.kind = .integer ∨ v.kind = .real

/-- An integer, or a real that is not a NaN. -/
def IsNumber (v : Value) : Prop := (∃ i, v = integer i) ∨ ∃ r, v = real r ∧ r.isNaN = false

variable {v : Value}

lemma IsNumber.isNumeric (h : v.IsNumber) : v.IsNumeric := by
  rcases h with ⟨i, rfl⟩ | ⟨r, rfl, -⟩
  · exact .inl rfl
  · exact .inr rfl

lemma IsNumber.exists_number? (h : v.IsNumber) : ∃ n, v.number? = some n := by
  rcases h with ⟨i, rfl⟩ | ⟨r, rfl, hr⟩
  · exact ⟨_, rfl⟩
  · simp only [number?, Binary64.number?, hr, Bool.false_eq_true, if_false]
    split_ifs
    · exact ⟨_, rfl⟩
    · exact ⟨_, rfl⟩

end Value

namespace Equality

open Value

variable {truthiness : Truthiness} {heap : Heap} {x y : Value}

/-- **Comparing numbers.** -/
theorem evaluate_of_isNumeric (hx : x.IsNumeric) (hy : y.IsNumeric) :
    ∃ same, evaluate truthiness heap .equal x y = .ok same ∧
      (same = true ↔ ∃ n, x.number? = some n ∧ y.number? = some n) := by
  cases x with
  | integer i =>
    cases y with
    | integer j =>
      refine ⟨i == j, rfl, ?_⟩
      rw [beq_iff_eq]
      constructor
      · rintro rfl
        exact ⟨_, rfl, rfl⟩
      · rintro ⟨n, hi, hj⟩
        have hij := Binary64.Number.finite.inj (Option.some.inj (hi.trans hj.symm))
        exact Int64.toInt_inj.1 (Int.cast_inj.1 hij)
    | real r =>
      refine ⟨r.equalsInt i, rfl, ?_⟩
      simp [Value.number?, Binary64.equalsInt_iff_number?]
    | _ => rcases hy with hy | hy <;> cases hy
  | real r =>
    cases y with
    | integer j =>
      refine ⟨r.equalsInt j, rfl, ?_⟩
      simp [Value.number?, Binary64.equalsInt_iff_number?]
    | real s => exact ⟨r.equal s, rfl, Binary64.equal_iff_number?⟩
    | _ => rcases hy with hy | hy <;> cases hy
  | _ => rcases hx with hx | hx <;> cases hx

lemma evaluate_eq_ok_true_iff (hx : x.IsNumeric) (hy : y.IsNumeric) :
    evaluate truthiness heap .equal x y = .ok true ↔
      ∃ n, x.number? = some n ∧ y.number? = some n := by
  obtain ⟨same, hsame, hnumber⟩ : ∃ same, evaluate truthiness heap .equal x y = .ok same ∧ _ :=
    evaluate_of_isNumeric hx hy
  rw [hsame, ← hnumber, Except.ok.injEq]

/-- **Integers and reals are equal exactly if they denote the same number**; a comparison of two of
them never fails.  In particular a real equals an integer if it is finite and the integer is its
number.  On the values that denote a number, equality is an equivalence. -/
theorem equal_iff_same_number (truthiness : Truthiness) (heap : Heap) :
    (∀ x y : Value, x.IsNumeric → y.IsNumeric → ∃ same,
      evaluate truthiness heap .equal x y = .ok same ∧
      (same = true ↔ ∃ n, x.number? = some n ∧ y.number? = some n)) ∧
    (∀ (i : Int64) (r : Binary64),
      r.equalsInt i = true ↔ r.isFinite = true ∧ r.value = i.toInt) ∧
    Equivalence fun x y : { v : Value // v.IsNumber } =>
      evaluate truthiness heap .equal x.val y.val = .ok true := by
  refine ⟨fun x y => evaluate_of_isNumeric, fun i r => ?_, ?_⟩
  · rw [Binary64.equalsInt_iff_number?]
    constructor
    · intro h
      have hfinite := Binary64.isFinite_of_number? h
      rw [Binary64.number?_of_isFinite hfinite] at h
      exact ⟨hfinite, Binary64.Number.finite.inj (Option.some.inj h)⟩
    · rintro ⟨hfinite, hvalue⟩
      rw [Binary64.number?_of_isFinite hfinite, hvalue]
  · have hiff : ∀ x y : { v : Value // v.IsNumber },
        evaluate truthiness heap .equal x.val y.val = .ok true ↔ x.val.number? = y.val.number? := by
      rintro ⟨x, hx⟩ ⟨y, hy⟩
      obtain ⟨n, hn⟩ := hx.exists_number?
      rw [evaluate_eq_ok_true_iff hx.isNumeric hy.isNumeric, hn]
      simp [eq_comm]
    refine ⟨fun x => ?_, fun {x y} hxy => ?_, fun {x y z} hxy hyz => ?_⟩
    · rw [hiff]
    · rw [hiff] at hxy ⊢
      exact hxy.symm
    · rw [hiff] at hxy hyz ⊢
      exact hxy.trans hyz

end Equality
end LooseEquality
