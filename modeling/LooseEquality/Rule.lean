import LooseEquality.Kind

/-!
# Which rule compares two kinds

A comparison is decided in two steps.  The kinds of the operands alone pick a *rule*, or show that
there is none; the rule is then applied to the operands themselves (`LooseEquality.Equality`).

Each rule expects its operands in one order.  `Rule.resolve` says whether the operands have to
change places for it, so a rule never needs to be stated twice.  That both orders of two kinds
resolve to the same rule is **`resolve_comm`**, and the pairs without a rule are those of
**`resolve_eq_none_iff`**: arrays compare with null and with booleans only.
-/

namespace LooseEquality

/-- A rule for comparing two values, named for the kinds it expects, in order. -/
inductive Rule where
  /-- Two nulls are equal. -/
  | nullNull
  /-- Null equals no value of another kind. -/
  | nullOther
  /-- Booleans are equal if they are the same. -/
  | boolean
  /-- An integer counts as false if it is zero. -/
  | booleanInteger
  /-- A real counts as false if it is a zero of either sign. -/
  | booleanReal
  /-- A boolean equals its own text only. -/
  | booleanString
  /-- An array counts as true as the session's truthiness says. -/
  | booleanArray
  /-- Integers are equal if they are the same. -/
  | integer
  /-- An integer and a real are equal if they are the same number. -/
  | integerReal
  /-- An integer equals its decimal text only. -/
  | integerString
  /-- Reals are equal as numbers. -/
  | real
  /-- A real equals no string. -/
  | realString
  /-- Strings are equal if they are the same. -/
  | string
  deriving DecidableEq, Repr

/-- A rule, and whether the operands stand in the opposite order to the one it expects. -/
structure Resolution where
  rule : Rule
  swapped : Bool
  deriving DecidableEq, Repr

namespace Rule

/-- The rule for comparing a value of the first kind with one of the second, if there is one. -/
def resolve : Kind → Kind → Option Resolution
  | .null, .null => some ⟨nullNull, false⟩
  | .null, _ => some ⟨nullOther, false⟩
  | _, .null => some ⟨nullOther, true⟩
  | .boolean, .boolean => some ⟨boolean, false⟩
  | .boolean, .integer => some ⟨booleanInteger, false⟩
  | .integer, .boolean => some ⟨booleanInteger, true⟩
  | .boolean, .real => some ⟨booleanReal, false⟩
  | .real, .boolean => some ⟨booleanReal, true⟩
  | .boolean, .string => some ⟨booleanString, false⟩
  | .string, .boolean => some ⟨booleanString, true⟩
  | .boolean, .array => some ⟨booleanArray, false⟩
  | .array, .boolean => some ⟨booleanArray, true⟩
  | .integer, .integer => some ⟨integer, false⟩
  | .integer, .real => some ⟨integerReal, false⟩
  | .real, .integer => some ⟨integerReal, true⟩
  | .integer, .string => some ⟨integerString, false⟩
  | .string, .integer => some ⟨integerString, true⟩
  | .real, .real => some ⟨real, false⟩
  | .real, .string => some ⟨realString, false⟩
  | .string, .real => some ⟨realString, true⟩
  | .string, .string => some ⟨string, false⟩
  | _, .array => none
  | .array, _ => none

/-- Both orders of two kinds resolve to the same rule, and operands of different kinds are swapped
in exactly one of them. -/
theorem resolve_comm (a b : Kind) :
    resolve b a =
      (resolve a b).map fun r => ⟨r.rule, if a = b then false else !r.swapped⟩ := by
  cases a <;> cases b <;> rfl

/-- Two kinds have no rule exactly if one is that of arrays and the other is neither null nor
boolean. -/
theorem resolve_eq_none_iff {a b : Kind} :
    resolve a b = none ↔
      (a = .array ∧ b ≠ .null ∧ b ≠ .boolean) ∨ (b = .array ∧ a ≠ .null ∧ a ≠ .boolean) := by
  cases a <;> cases b <;> simp [resolve]

end Rule
end LooseEquality
