/-!
# Spans

A span is a stretch of a text, given by where it starts and how long it is.  Both numbers count
bytes of the text's UTF-8 encoding.  A span does not know its text, so whether it fits one is a
question for the functions that look at both (see `LooseEquality.Location`).

In a machine both numbers are words of 64 bits.  They are numbers without a bound here, and so are
sums and differences of them: for spans of a text these are at most the length of the text, and that
is less than `2 ^ 64`.  But a span may also be made up, and then offset and length need not add up to
a word.  Where such a span is shown this makes a difference (`Span.stop?`).
-/

namespace LooseEquality

/-- A stretch of `length` bytes that starts after `offset` bytes. -/
structure Span where
  offset : Nat
  length : Nat
  deriving DecidableEq, Repr

namespace Span

/-- The offset right behind the span, whether or not it is a machine word. -/
def stop (s : Span) : Nat := s.offset + s.length

/-- The smallest span that covers both of two spans, and with them whatever lies between. -/
def cover (s t : Span) : Span where
  offset := min s.offset t.offset
  length := max s.stop t.stop - min s.offset t.offset

/-- A cover ends where the later of its two parts ends. -/
theorem stop_cover (s t : Span) : (s.cover t).stop = max s.stop t.stop := by
  simp only [stop, cover]
  omega

/-- The order of the two parts does not matter. -/
theorem cover_comm (s t : Span) : s.cover t = t.cover s := by
  simp only [cover, Nat.min_comm, Nat.max_comm]

end Span

/-- Something read from a text, with the stretch of text it was read from. -/
structure Spanned (α : Type) where
  val : α
  span : Span
  deriving DecidableEq, Repr

end LooseEquality
