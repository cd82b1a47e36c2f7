/-!
# Lines of a text

A position in a text divides the line it stands in: `Text.lastLine` of what comes before the
position is the part of the line to its left, `Text.firstLine` of what comes after it the part to
its right.  A line feed belongs to the line it ends, so a position right before one is still on
that line.
-/

namespace LooseEquality
namespace Text

/-- Whether a character belongs to the inside of a line. -/
def isInLine (c : Char) : Bool := c != '\n'

/-- The text up to the first line feed. -/
def firstLine (cs : List Char) : List Char := cs.takeWhile isInLine

/-- The text behind the last line feed. -/
def lastLine (cs : List Char) : List Char := (cs.reverse.takeWhile isInLine).reverse

/-- The number of line feeds in a text. -/
def lineFeeds (cs : List Char) : Nat := cs.count '\n'

/-- What stands before a line feed is of no concern to the last line. -/
theorem lastLine_append_newline (cs ds : List Char) :
    lastLine (cs ++ '\n' :: ds) = lastLine ds := by
  simp only [lastLine, List.reverse_append, List.reverse_cons, List.append_assoc,
    List.singleton_append]
  rw [List.takeWhile_append]
  split
  · next h =>
    rw [(List.takeWhile_sublist isInLine).eq_of_length h]
    simp [isInLine]
  · rfl

end Text
end LooseEquality
