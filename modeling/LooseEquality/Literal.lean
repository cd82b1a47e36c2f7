import LooseEquality.Decimal
import LooseEquality.Fault
import LooseEquality.Value

/-!
# Literals

What a text denotes as a boolean, an integer or a real.  The three readers say `none` for a text
that denotes nothing; the functions on top of them turn that into the fault that names the kind
and quotes the text.

Null has no literal, a string is its own literal, and an array literal depends on the session it
is evaluated in, so none of these has a reader here.
-/

namespace LooseEquality
namespace Literal

/-! ## Readers -/

/-- The boolean a text denotes.  There are four spellings for each, and case matters. -/
def boolean? : String → Option Bool
  | "true" => some true
  | "True" => some true
  | "yes" => some true
  | "1" => some true
  | "false" => some false
  | "False" => some false
  | "no" => some false
  | "0" => some false
  | _ => none

/-- The integer a text denotes: a signed decimal numeral that fits into 64 bits. -/
def integer? (text : String) : Option Int64 :=
  match Numeral.toInt? text.toList with
  | some i =>
    if Int64.minValue.toInt ≤ i ∧ i ≤ Int64.maxValue.toInt then some (Int64.ofInt i) else none
  | none => none

/-- Whether a text starts like a number once its signs are gone, however many there are. -/
def startsLikeNumber (cs : List Char) : Bool :=
  match cs.dropWhile fun c => c == '-' || c == '+' with
  | [] => false
  | c :: _ => c.isDigit || c == '.'

/-- The real a text denotes, if it starts like a number: the words for infinity and for a NaN are no
literals. -/
def real? (text : String) : Option Binary64 :=
  match Binary64.read? text.toList with
  | some r => if startsLikeNumber text.toList then some r else none
  | none => none

/-! ## Literals as values -/

/-- The value that was read, or the fault of a text that denotes none. -/
def orInvalid (kind : Kind) (text : String) : Option Value → Except Fault Value
  | some v => .ok v
  | none => .error (.invalidLiteral kind text)

/-- A boolean from its literal. -/
def boolean (text : String) : Except Fault Value :=
  orInvalid .boolean text ((boolean? text).map .boolean)

/-- An integer from its literal. -/
def integer (text : String) : Except Fault Value :=
  orInvalid .integer text ((integer? text).map .integer)

/-- A real from its literal. -/
def real (text : String) : Except Fault Value :=
  orInvalid .real text ((real? text).map .real)

end Literal
end LooseEquality
