/-!
# Kinds of values

There are six kinds of values.  A kind is what a comparison is decided by in the first place: the
rule that applies to two values is picked from their kinds alone (see `LooseEquality.Rule`).  Each
kind has a name, and scripts spell it out in front of every literal.

`Kind.ofName?` accepts the six names and nothing else; **`ofName?_eq_some_iff`** says so.
-/

namespace LooseEquality

/-- The kind of a value. -/
inductive Kind where
  | null
  | boolean
  | integer
  | real
  | string
  | array
  deriving DecidableEq, Repr

namespace Kind

/-- The name of a kind, as scripts and messages write it. -/
def name : Kind → String
  | null => "null"
  | boolean => "boolean"
  | integer => "integer"
  | real => "real"
  | string => "string"
  | array => "array"

/-- The kind with a given name.  Names are lower case and written in full. -/
def ofName? : String → Option Kind
  | "null" => some null
  | "boolean" => some boolean
  | "integer" => some integer
  | "real" => some real
  | "string" => some string
  | "array" => some array
  | _ => none

theorem ofName?_name (k : Kind) : ofName? k.name = some k := by
  cases k <;> rfl

/-- **A text names a kind exactly if it is that kind's name.** -/
theorem ofName?_eq_some_iff {text : String} {k : Kind} : ofName? text = some k ↔ text = k.name := by
  constructor
  · intro h
    unfold ofName? at h
    split at h <;> cases h <;> rfl
  · rintro rfl
    exact ofName?_name k

end Kind
end LooseEquality
