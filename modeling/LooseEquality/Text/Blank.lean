import LooseEquality.Text.CodeRange

/-!
# Blank characters

The characters with Unicode's property `White_Space`.  Between the words of a script they count as
nothing, with the exception of the line feed, which ends a comparison.
-/

namespace LooseEquality
namespace Text

/-- The code points of white space. -/
def blankRanges : CodeRanges :=
  [(0x09, 0x0D), (0x20, 0x20), (0x85, 0x85), (0xA0, 0xA0), (0x1680, 0x1680), (0x2000, 0x200A),
   (0x2028, 0x2029), (0x202F, 0x202F), (0x205F, 0x205F), (0x3000, 0x3000)]

/-- Whether a character is white space. -/
def isBlank (c : Char) : Bool := blankRanges.contains c

end Text
end LooseEquality
