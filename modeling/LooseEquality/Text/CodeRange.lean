/-!
# Sets of code points

Properties of characters that Unicode defines by listing code points are tables here: lists of
ranges, ends included, in increasing order.  One function looks characters up in all of them.
-/

namespace LooseEquality
namespace Text

/-- A set of code points, as ranges from a first to a last one. -/
abbrev CodeRanges := List (Nat × Nat)

/-- Whether a character lies in one of the ranges. -/
def CodeRanges.contains (table : CodeRanges) (c : Char) : Bool :=
  table.any fun range => decide (range.1 ≤ c.toNat) && decide (c.toNat ≤ range.2)

end Text
end LooseEquality
