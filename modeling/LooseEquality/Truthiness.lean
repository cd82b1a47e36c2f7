/-!
# Truthiness of arrays

Comparing an array with a boolean asks whether the array counts as true.  That is the one question
on which comparisons can be configured.
-/

namespace LooseEquality

/-- When an array counts as true. -/
inductive Truthiness where
  /-- Every array does, whatever it holds. -/
  | always
  /-- An array does if it holds something. -/
  | nonEmpty
  deriving DecidableEq, Repr

namespace Truthiness

instance : Inhabited Truthiness := ⟨always⟩

/-- Whether an array of the given length counts as true. -/
def ofLength : Truthiness → Nat → Bool
  | always, _ => true
  | nonEmpty, length => length != 0

/-- The setting with a given name, as the command line spells it. -/
def ofName? : String → Option Truthiness
  | "always" => some always
  | "non-empty" => some nonEmpty
  | _ => none

end Truthiness
end LooseEquality
