import LooseEquality.Equality
import LooseEquality.Proofs.Binary64.Integer
import LooseEquality.Proofs.Numeral

/-!
# Equality as a table without an order

Evaluating a comparison goes through two tables, one on kinds that may ask for the operands to
change places, and one on values that knows each pair of kinds in one order only.  This file says
what comes out of the two together.

* `Equality.Incomparable` — the pairs of kinds that no comparison gets an answer for;
* `Equality.Entry` — when two values are equal, each pair of kinds listed once;
* `Equality.Equal` — the table read in both orders.

**`evaluate_spec`** puts everything into one statement: a rule that was found always has an answer,
the faults are those of incomparable kinds, and for all other operands `==` answers as the table
says, in either order, and `!=` the opposite.

Entries of the table stand in the order that rules expect (`resolve_of_entry`).  An entry read the
other way round is therefore of use only where both operands have one kind, and there the table is
symmetric by itself (`Entry.symm`).
-/

namespace LooseEquality

/-- The answer of a rule to operands that may have to change places for it. -/
def Resolution.holds? (r : Resolution) (truthiness : Truthiness) (heap : Heap) (a b : Value) :
    Option Bool :=
  if r.swapped then r.rule.holds? truthiness heap b a else r.rule.holds? truthiness heap a b

namespace Equality

variable {truthiness : Truthiness} {heap : Heap} {a b : Value}

/-- Kinds that cannot be compared: one is that of arrays and the other neither null nor boolean. -/
def Incomparable (k l : Kind) : Prop :=
  (k = .array ∧ l ≠ .null ∧ l ≠ .boolean) ∨ (l = .array ∧ k ≠ .null ∧ k ≠ .boolean)

/-- Whether an array counts as true in comparisons with booleans. -/
def Truthy (truthiness : Truthiness) (heap : Heap) (a : ArrayRef) : Prop :=
  truthiness = .always ∨ ∃ items, heap.items? a = some items ∧ items ≠ #[]

/-- The pairs of equal values.  Reals are taken as the numbers they denote, so that a NaN equals
nothing but counts as true, and an integer equals a string if the string is the canonical numeral
of the integer. -/
inductive Entry (truthiness : Truthiness) (heap : Heap) : Value → Value → Prop
  | null : Entry truthiness heap .null .null
  | boolean (b : Bool) : Entry truthiness heap (.boolean b) (.boolean b)
  | booleanInteger {b : Bool} {i : Int64} (h : b = true ↔ i ≠ 0) :
      Entry truthiness heap (.boolean b) (.integer i)
  | booleanReal {b : Bool} {r : Binary64}
      (h : b = true ↔ r.bits ≠ 0 ∧ r.bits ≠ 0x8000000000000000) :
      Entry truthiness heap (.boolean b) (.real r)
  | trueText : Entry truthiness heap (.boolean true) (.string "true")
  | falseText : Entry truthiness heap (.boolean false) (.string "false")
  | booleanArray {b : Bool} {a : ArrayRef} (h : b = true ↔ Truthy truthiness heap a) :
      Entry truthiness heap (.boolean b) (.array a)
  | integer (i : Int64) : Entry truthiness heap (.integer i) (.integer i)
  | integerReal {i : Int64} {r : Binary64} (h : r.number? = some (.finite i.toInt)) :
      Entry truthiness heap (.integer i) (.real r)
  | integerString {i : Int64} {s : String} (hcanonical : Numeral.IsCanonical s.toList)
      (hread : Numeral.toInt? s.toList = some i.toInt) :
      Entry truthiness heap (.integer i) (.string s)
  | real {x y : Binary64} {n : Binary64.Number} (hx : x.number? = some n)
      (hy : y.number? = some n) : Entry truthiness heap (.real x) (.real y)
  | string (s : String) : Entry truthiness heap (.string s) (.string s)

/-- Equality of values: the table read in both orders. -/
def Equal (truthiness : Truthiness) (heap : Heap) (a b : Value) : Prop :=
  Entry truthiness heap a b ∨ Entry truthiness heap b a

/-! ## The table against the rules -/

/-- Entries stand in the order that rules expect. -/
lemma resolve_of_entry (h : Entry truthiness heap a b) :
    ∃ r, Rule.resolve a.kind b.kind = some ⟨r, false⟩ := by
  cases h <;> exact ⟨_, rfl⟩

/-- On operands of one kind the table has both orders. -/
lemma Entry.symm (h : Entry truthiness heap a b) (hkind : a.kind = b.kind) :
    Entry truthiness heap b a := by
  cases h with
  | null => exact .null
  | boolean b => exact .boolean b
  | integer i => exact .integer i
  | real hx hy => exact .real hy hx
  | string s => exact .string s
  | _ => cases hkind

lemma ofLength_iff_truthy {x : ArrayRef} :
    truthiness.ofLength (heap.length x) = true ↔ Truthy truthiness heap x := by
  cases truthiness with
  | always => simp [Truthiness.ofLength, Truthy]
  | nonEmpty =>
    cases h : heap.items? x with
    | none => simp [Truthiness.ofLength, Truthy, Heap.length, h]
    | some items => simp [Truthiness.ofLength, Truthy, Heap.length, h]

/-- A boolean equals what counts as true exactly if it is true. -/
lemma beq_eq_true_iff_of_iff {x y : Bool} {p : Prop} (h : y = true ↔ p) :
    (x == y) = true ↔ (x = true ↔ p) := by
  rw [← h, beq_iff_eq, Bool.eq_iff_iff]

lemma entry_boolean_string_iff {x : Bool} {s : String} :
    Entry truthiness heap (.boolean x) (.string s) ↔ s = if x then "true" else "false" := by
  constructor
  · intro h
    cases h <;> rfl
  · rintro rfl
    cases x
    · exact .falseText
    · exact .trueText

variable (truthiness heap) in
/-- **Rules answer as the table says**, on operands in the order they expect. -/
theorem holds?_eq_some_true_iff {r : Rule} (h : Rule.resolve a.kind b.kind = some ⟨r, false⟩) :
    r.holds? truthiness heap a b = some true ↔ Entry truthiness heap a b := by
  cases a with
  | null =>
    cases b with
    | null => cases h; exact ⟨fun _ => .null, fun _ => rfl⟩
    | _ => cases h; exact ⟨(nomatch ·), (nomatch ·)⟩
  | boolean x =>
    cases b with
    | boolean y =>
      cases h
      simp only [Rule.holds?, Option.some.injEq, beq_iff_eq]
      constructor
      · intro hxy
        rw [hxy]
        exact .boolean y
      · intro hentry
        cases hentry
        rfl
    | integer i =>
      cases h
      have hi : (i != 0) = true ↔ i ≠ 0 := bne_iff_ne
      simp only [Rule.holds?, Option.some.injEq, beq_eq_true_iff_of_iff hi]
      constructor
      · exact .booleanInteger
      · intro hentry
        cases hentry with
        | booleanInteger hxi => exact hxi
    | real r =>
      cases h
      have hr : (!r.isZero) = true ↔ r.bits ≠ 0 ∧ r.bits ≠ 0x8000000000000000 := by
        rw [Bool.not_eq_true', ← Bool.not_eq_true, Binary64.isZero_iff, not_or]
      simp only [Rule.holds?, Option.some.injEq, beq_eq_true_iff_of_iff hr]
      constructor
      · exact .booleanReal
      · intro hentry
        cases hentry with
        | booleanReal hxr => exact hxr
    | string s =>
      cases h
      simp only [Rule.holds?, Option.some.injEq, beq_iff_eq, entry_boolean_string_iff]
    | array x =>
      cases h
      simp only [Rule.holds?, Option.some.injEq, beq_eq_true_iff_of_iff ofLength_iff_truthy]
      constructor
      · exact .booleanArray
      · intro hentry
        cases hentry with
        | booleanArray hxa => exact hxa
    | null => cases h
  | integer i =>
    cases b with
    | integer j =>
      cases h
      simp only [Rule.holds?, Option.some.injEq, beq_iff_eq]
      constructor
      · intro hij
        rw [hij]
        exact .integer j
      · intro hentry
        cases hentry
        rfl
    | real r =>
      cases h
      simp only [Rule.holds?, Option.some.injEq, Binary64.equalsInt_iff_number?]
      constructor
      · exact .integerReal
      · intro hentry
        cases hentry with
        | integerReal hir => exact hir
    | string s =>
      cases h
      simp only [Rule.holds?, Option.some.injEq, beq_iff_eq, Numeral.eq_ofInt_iff]
      constructor
      · rintro ⟨hcanonical, hread⟩
        exact .integerString hcanonical hread
      · intro hentry
        cases hentry with
        | integerString hcanonical hread => exact ⟨hcanonical, hread⟩
    | _ => cases h
  | real x =>
    cases b with
    | real y =>
      cases h
      simp only [Rule.holds?, Option.some.injEq, Binary64.equal_iff_number?]
      constructor
      · rintro ⟨n, hx, hy⟩
        exact .real hx hy
      · intro hentry
        cases hentry with
        | real hx hy => exact ⟨_, hx, hy⟩
    | string s => cases h; exact ⟨(nomatch ·), (nomatch ·)⟩
    | _ => cases h
  | string s =>
    cases b with
    | string t =>
      cases h
      simp only [Rule.holds?, Option.some.injEq, beq_iff_eq]
      constructor
      · intro hst
        rw [hst]
        exact .string t
      · intro hentry
        cases hentry
        rfl
    | _ => cases h
  | array x => cases b <;> cases h

/-! ## Both orders -/

/-- A rule that expects its operands swapped expects them as they are in the other order. -/
lemma resolve_swap {r : Rule} (h : Rule.resolve a.kind b.kind = some ⟨r, true⟩) :
    Rule.resolve b.kind a.kind = some ⟨r, false⟩ := by
  rw [Rule.resolve_comm, h]
  simp

/-- If a rule expects operands as they are, an entry for them in the other order is one in this
order as well. -/
lemma entry_of_entry_swap {r : Rule} (h : Rule.resolve a.kind b.kind = some ⟨r, false⟩)
    (hentry : Entry truthiness heap b a) : Entry truthiness heap a b := by
  obtain ⟨s, hs⟩ := resolve_of_entry hentry
  have hkind : a.kind = b.kind := by
    rw [Rule.resolve_comm, h] at hs
    simp only [Option.map_some, Option.some.injEq, Resolution.mk.injEq] at hs
    by_contra hne
    simp [hne] at hs
  exact hentry.symm hkind.symm

variable (truthiness heap) in
/-- **A rule that was found has an answer**, whichever order it expects. -/
theorem holds?_of_resolve {r : Resolution} (h : Rule.resolve a.kind b.kind = some r) :
    ∃ same, r.holds? truthiness heap a b = some same := by
  obtain ⟨rule, swapped⟩ := r
  cases swapped with
  | false => exact Option.isSome_iff_exists.1 (holds?_isSome_of_resolve truthiness heap h)
  | true =>
    exact Option.isSome_iff_exists.1 (holds?_isSome_of_resolve truthiness heap (resolve_swap h))

/-- **Rules answer as the table says**, whichever order they expect. -/
theorem resolution_holds?_iff_equal {r : Resolution} (h : Rule.resolve a.kind b.kind = some r) :
    r.holds? truthiness heap a b = some true ↔ Equal truthiness heap a b := by
  obtain ⟨rule, swapped⟩ := r
  cases swapped with
  | false =>
    have hrule := holds?_eq_some_true_iff truthiness heap h
    show rule.holds? truthiness heap a b = some true ↔ Equal truthiness heap a b
    rw [hrule]
    constructor
    · exact .inl
    · rintro (hab | hba)
      · exact hab
      · exact entry_of_entry_swap h hba
  | true =>
    have hrule := holds?_eq_some_true_iff truthiness heap (resolve_swap h)
    show rule.holds? truthiness heap b a = some true ↔ Equal truthiness heap a b
    rw [hrule]
    constructor
    · exact .inr
    · rintro (hab | hba)
      · exact entry_of_entry_swap (resolve_swap h) hab
      · exact hba

lemma equal_comm : Equal truthiness heap a b ↔ Equal truthiness heap b a := or_comm

lemma equal?_eq_bind :
    equal? truthiness heap a b
      = (Rule.resolve a.kind b.kind).bind fun r => r.holds? truthiness heap a b := by
  rw [equal?]
  split
  · next h => simp [h]
  · next h => simp [h, Resolution.holds?]
  · next h => simp [h, Resolution.holds?]

lemma resolve_eq_none_iff_incomparable {k l : Kind} :
    Rule.resolve k l = none ↔ Incomparable k l := Rule.resolve_eq_none_iff

lemma incomparable_comm {k l : Kind} : Incomparable k l ↔ Incomparable l k := or_comm

variable (truthiness heap) in
lemma equal?_eq_none_iff : equal? truthiness heap a b = none ↔ Incomparable a.kind b.kind := by
  rw [equal?_eq_bind, ← resolve_eq_none_iff_incomparable]
  cases h : Rule.resolve a.kind b.kind with
  | none => simp
  | some r =>
    obtain ⟨same, hsame⟩ := holds?_of_resolve truthiness heap h
    simp [hsame]

/-- Comparable operands have an answer, and it is the one of the table. -/
lemma equal?_eq_some_iff (h : ¬ Incomparable a.kind b.kind) {same : Bool} :
    equal? truthiness heap a b = some same ↔ (same = true ↔ Equal truthiness heap a b) := by
  obtain ⟨r, hr⟩ := Option.ne_none_iff_exists'.1 (mt resolve_eq_none_iff_incomparable.1 h)
  obtain ⟨answer, hanswer⟩ := holds?_of_resolve truthiness heap hr
  rw [equal?_eq_bind, ← resolution_holds?_iff_equal hr]
  simp only [hr, Option.bind_some, hanswer, Option.some.injEq]
  rw [eq_comm, Bool.eq_iff_iff]

/-! ## The operators -/

/-- **Comparing values.**  Of any two values:

* a rule that was found for their kinds has an answer for them;
* an operator fails exactly if their kinds are incomparable, and its fault names the operator and
  the kinds, in order;
* otherwise `==` has one answer for both orders, the one of the table, and `!=` has the
  opposite one. -/
theorem evaluate_spec (truthiness : Truthiness) (heap : Heap) (a b : Value) :
    (∀ r, Rule.resolve a.kind b.kind = some r → ∃ same, r.holds? truthiness heap a b = some same) ∧
    (∀ op fault, evaluate truthiness heap op a b = .error fault ↔
      Incomparable a.kind b.kind ∧ fault = .incomparable op a.kind b.kind) ∧
    (¬ Incomparable a.kind b.kind → ∃ same,
      evaluate truthiness heap .equal a b = .ok same ∧
      evaluate truthiness heap .equal b a = .ok same ∧
      evaluate truthiness heap .notEqual a b = .ok (!same) ∧
      (same = true ↔ Equal truthiness heap a b)) := by
  refine ⟨?_, ?_, ?_⟩
  · intro r hr
    exact holds?_of_resolve truthiness heap hr
  · intro op fault
    rw [evaluate, ← equal?_eq_none_iff truthiness heap]
    cases equal? truthiness heap a b with
    | none => simp [eq_comm]
    | some same => simp
  · intro h
    obtain ⟨same, hsame⟩ : ∃ same : Bool, same = true ↔ Equal truthiness heap a b := by
      classical exact ⟨decide (Equal truthiness heap a b), decide_eq_true_iff⟩
    have hab := (equal?_eq_some_iff h).2 hsame
    have hba := (equal?_eq_some_iff (mt incomparable_comm.1 h)).2 (hsame.trans equal_comm)
    refine ⟨same, ?_, ?_, ?_, hsame⟩
    · simp only [evaluate, hab, Operator.apply]
    · simp only [evaluate, hba, Operator.apply]
    · simp only [evaluate, hab, Operator.apply]

end Equality
end LooseEquality
