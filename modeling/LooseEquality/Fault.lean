import LooseEquality.Kind
import LooseEquality.Numeral
import LooseEquality.Operator
import LooseEquality.Span

/-!
# Faults

Everything that can go wrong with a script or a comparison, as data.  A fault says what happened;
`Fault.message` is the only place that puts it into words.

A fault may be *located*: tied to the stretch of script it arose from.  Malformed scripts are
located from the start.  The other faults arise where no script is in sight, and get their place
from whoever evaluates one.  Locating is done once: `Fault.locate` leaves a fault alone that
already has a place, so the innermost part of a script that knows its place wins.
-/

namespace LooseEquality

/-- What went wrong. -/
inductive Fault where
  /-- No rule compares values of these two kinds. -/
  | incomparable (op : Operator) (lhs rhs : Kind)
  /-- The text is no literal of the kind. -/
  | invalidLiteral (kind : Kind) (text : String)
  /-- The script does not follow the grammar. -/
  | malformed (detail : String) (span : Span)
  /-- A fault that arose from the given part of a script. -/
  | located (cause : Fault) (span : Span)
  deriving DecidableEq, Repr

namespace Fault

/-- How messages write a span. -/
def spanText (s : Span) : String :=
  "Src \x7b offset: " ++ Numeral.ofNat s.offset ++ ", len: " ++ Numeral.ofNat s.length ++ " \x7d"

/-- The fault in words.  Where it arose is left to the report, except that a malformed script
mentions its span. -/
def message : Fault → String
  | incomparable op _ _ => "operator '" ++ op.symbol ++ "': incomparable operands"
  | invalidLiteral kind text => "invalid " ++ kind.name ++ " literal `" ++ text ++ "`"
  | malformed detail span => "Syntax error: " ++ detail ++ " at " ++ spanText span
  | located cause _ => cause.message

/-- Tie a fault to a part of a script, unless it is tied to one already. -/
def locate (span : Span) : Fault → Fault
  | malformed detail s => malformed detail s
  | located cause s => located cause s
  | fault => located fault span

/-- The part of the script a fault is tied to. -/
def span? : Fault → Option Span
  | malformed _ span => some span
  | located _ span => some span
  | _ => none

/-- The fault itself, without the places it was given. -/
def root : Fault → Fault
  | located cause _ => cause.root
  | fault => fault

/-- Locating a fault does not change what it says. -/
theorem message_locate (span : Span) (f : Fault) : (f.locate span).message = f.message := by
  cases f <;> rfl

/-- **A place, once given, is kept.** -/
theorem locate_locate (s t : Span) (f : Fault) : (f.locate s).locate t = f.locate s := by
  cases f <;> rfl

theorem root_locate (span : Span) (f : Fault) : (f.locate span).root = f.root := by
  cases f <;> rfl

end Fault
end LooseEquality
