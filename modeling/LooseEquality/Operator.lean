/-!
# Equality operators

The two operators of the comparison language.  They differ only in what they make of an equality
test, so there is no separate notion of inequality anywhere else in the library.
-/

namespace LooseEquality

/-- An equality operator. -/
inductive Operator where
  | equal
  | notEqual
  deriving DecidableEq, Repr

namespace Operator

/-- The operator as scripts write it. -/
def symbol : Operator → String
  | equal => "=="
  | notEqual => "!="

/-- What the operator makes of the outcome of an equality test. -/
def apply : Operator → Bool → Bool
  | equal, same => same
  | notEqual, same => !same

end Operator
end LooseEquality
