import LooseEquality.Fault
import LooseEquality.Location

/-!
# Reports

A fault as it is shown to the author of a script: what went wrong, where, and the line in question
with the place underlined.  A fault that is not tied to a place is just its message.

Faults of a script always fit the script they come from.  The one thing that can be in the way of
a report is a line too wide to be underlined; see `Span.highlight?`.  How wide a text is, is again
a parameter.
-/

namespace LooseEquality

/-- The report of a fault in a text, if its place can be shown there. -/
def Fault.describe? (f : Fault) (text : String) (width : List Char → Nat := Text.width) :
    Option String :=
  match f.span? with
  | none => some f.message
  | some span =>
    match span.location? text width, span.highlight? text width with
    | some location, some highlight =>
      some (f.message ++ " at " ++ location.text ++ "\n" ++ highlight)
    | _, _ => none

end LooseEquality
