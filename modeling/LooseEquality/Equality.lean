import LooseEquality.Fault
import LooseEquality.Heap
import LooseEquality.Rule
import LooseEquality.Truthiness

/-!
# Equality of values

The equality test itself.  `Rule.holds?` applies one rule to operands in the order it expects;
`Equality.equal?` finds the rule for two values, puts them into that order and applies it; and
`Equality.evaluate` is what an operator makes of the answer, with a fault for operands that no rule
compares.

Comparing reads the length of an array at most, and only where a boolean meets an array.  The
elements are never looked at, so a comparison ends even on an array that contains itself.

The two tables, one on kinds and one on values, fit together: **`holds?_isSome_of_resolve`** says
that a rule found for two kinds always has an answer for values of those kinds.
-/

namespace LooseEquality

namespace Rule

/-- Whether two values are equal by a rule.  The values have to be of the kinds the rule is named
for, in that order; for any others there is no answer. -/
def holds? (truthiness : Truthiness) (heap : Heap) : Rule → Value → Value → Option Bool
  | nullNull, .null, .null => some true
  | nullOther, .null, _ => some false
  | boolean, .boolean x, .boolean y => some (x == y)
  | booleanInteger, .boolean x, .integer i => some (x == (i != 0))
  | booleanReal, .boolean x, .real r => some (x == !r.isZero)
  | booleanString, .boolean x, .string s => some (s == if x then "true" else "false")
  | booleanArray, .boolean x, .array a => some (x == truthiness.ofLength (heap.length a))
  | integer, .integer i, .integer j => some (i == j)
  | integerReal, .integer i, .real r => some (r.equalsInt i)
  | integerString, .integer i, .string s => some (s == Numeral.ofInt i.toInt)
  | real, .real x, .real y => some (x.equal y)
  | realString, .real _, .string _ => some false
  | string, .string x, .string y => some (x == y)
  | _, _, _ => none

end Rule

namespace Equality

/-- Whether two values are equal, or nothing if their kinds cannot be compared. -/
def equal? (truthiness : Truthiness) (heap : Heap) (a b : Value) : Option Bool :=
  match Rule.resolve a.kind b.kind with
  | none => none
  | some ⟨rule, false⟩ => rule.holds? truthiness heap a b
  | some ⟨rule, true⟩ => rule.holds? truthiness heap b a

/-- The answer to `a op b`. -/
def evaluate (truthiness : Truthiness) (heap : Heap) (op : Operator) (a b : Value) :
    Except Fault Bool :=
  match equal? truthiness heap a b with
  | some same => .ok (op.apply same)
  | none => .error (.incomparable op a.kind b.kind)

/-- **A rule that was found has an answer.** -/
theorem holds?_isSome_of_resolve (truthiness : Truthiness) (heap : Heap) {a b : Value} {r : Rule}
    (h : Rule.resolve a.kind b.kind = some ⟨r, false⟩) :
    (r.holds? truthiness heap a b).isSome = true := by
  cases a <;> cases b <;> simp [Value.kind, Rule.resolve] at h <;> subst h <;> rfl

end Equality
end LooseEquality
