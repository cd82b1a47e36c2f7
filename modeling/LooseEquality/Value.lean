import LooseEquality.Binary64
import LooseEquality.Kind

/-!
# Values

Null, booleans, 64-bit integers, binary64 reals, strings, and arrays.

An array is a place that holds values, not the values themselves: copying it copies the reference,
and whatever is pushed through one copy is seen through all of them.  A `Value` therefore carries
only an `ArrayRef`; what the array holds is recorded in a `Heap`.  The values stay plain finite
data even when an array has been pushed into itself.
-/

namespace LooseEquality

/-- A reference to an array.  Two references are the same array exactly if they are equal. -/
structure ArrayRef where
  index : Nat
  deriving DecidableEq, Repr

/-- A value of one of the six kinds. -/
inductive Value where
  | null
  | boolean (b : Bool)
  | integer (i : Int64)
  | real (r : Binary64)
  | string (s : String)
  | array (a : ArrayRef)
  deriving DecidableEq

/-- The kind of a value. -/
def Value.kind : Value → Kind
  | null => .null
  | boolean _ => .boolean
  | integer _ => .integer
  | real _ => .real
  | string _ => .string
  | array _ => .array

end LooseEquality
