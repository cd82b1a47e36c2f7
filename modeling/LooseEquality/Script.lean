import LooseEquality.Kind
import LooseEquality.Operator
import LooseEquality.Span

/-!
# Scripts

A script is a sequence of comparisons such as

    boolean yes == integer 1
    null != array i

Each side of a comparison spells out the kind of its value and then, unless the kind is `null`, a
literal.  The literal is kept as text: whether it denotes anything is found out only when the
script is evaluated, so that a script with a bad literal in its last line still runs up to it.

Everything in a script knows the stretch of text it was read from.
-/

namespace LooseEquality

/-- One side of a comparison: a kind and the text of a literal. -/
structure Operand where
  kind : Kind
  literal : Option String
  deriving DecidableEq, Repr

/-- A comparison between two operands. -/
structure Comparison where
  op : Spanned Operator
  lhs : Spanned Operand
  rhs : Spanned Operand
  deriving DecidableEq, Repr

/-- A sequence of comparisons. -/
abbrev Script := List (Spanned Comparison)

namespace Operand

/-- The text of an operand's literal, empty if it has none. -/
def literalText (o : Operand) : String := o.literal.getD ""

/-- An operand as a script spells it: the kind, then the literal if there is one, without quotes. -/
def plainText (o : Operand) : String :=
  match o.literal with
  | none => o.kind.name
  | some text => o.kind.name ++ " " ++ text

end Operand

/-- A comparison together with its span, from the start of one operand to the end of the other. -/
def Comparison.spanned (c : Comparison) : Spanned Comparison := ⟨c, c.lhs.span.cover c.rhs.span⟩

end LooseEquality
