import LooseEquality.Binary64
import LooseEquality.Numeral

/-!
# Decimal notation for reals

A real is written in decimal: an optional sign, digits with an optional point among them or at
either end, and an optional power of ten.  `Decimal.read?` recovers the number that was written,
exactly, as a signed coefficient times a power of ten; `Decimal.toBinary64` then rounds it once to
the nearest binary64 real.

`Binary64.read?` puts the two together, and knows the words for infinity and for what is no number.

Neither step looks at how long the text is, so the digits and the exponent may go on for ever
without a change in the answer.  The one concession to size is in `toBinary64`: a power of ten is
only formed when the number could be finite and nonzero.  Beyond those bounds the answer is known
from the sizes of the coefficient and the exponent alone.
-/

namespace LooseEquality

/-- A decimal number `± coefficient · 10 ^ exponent`.  The sign is kept apart so that `-0` differs
from `0`. -/
structure Decimal where
  negative : Bool
  coefficient : Nat
  exponent : Int
  deriving DecidableEq

namespace Decimal

/-! ## Reading -/

/-- The power of ten at the end of a decimal: nothing at all for `0`, or a letter `e` of either
case and a signed numeral. -/
def exponentPart? : List Char → Option Int
  | [] => some 0
  | c :: cs => if c = 'e' || c = 'E' then Numeral.toInt? cs else none

/-- Split the digits after the point off, if there is a point. -/
def fractionPart : List Char → List Char × List Char
  | '.' :: cs => (cs.takeWhile Char.isDigit, cs.dropWhile Char.isDigit)
  | cs => ([], cs)

/-- Read a decimal.  There must be a digit before or after the point; a point moves the exponent
down by the number of digits behind it. -/
def read? (cs : List Char) : Option Decimal :=
  match Numeral.splitSign cs with
  | (negative, unsigned) =>
    let whole := unsigned.takeWhile Char.isDigit
    match fractionPart (unsigned.dropWhile Char.isDigit) with
    | (fraction, rest) =>
      if whole.isEmpty && fraction.isEmpty then none
      else (exponentPart? rest).map fun exponent =>
        { negative
          coefficient := Numeral.value (whole ++ fraction)
          exponent := exponent - fraction.length }

/-! ## Rounding -/

/-- A power of ten. -/
def tenTo (power : Nat) : Nat := Nat.pow 10 power

/-- The magnitude of the real nearest to `coefficient · 10 ^ power`.  Since `10 ≥ 2³`, a number
whose binary size passes `1100` bits this way is beyond every finite real. -/
def scaledUp (coefficient power : Nat) : Nat :=
  if coefficient = 0 then 0
  else if 1100 < coefficient.log2 + 3 * power then Binary64.infinity
  else Binary64.nearestMagnitude (coefficient * tenTo power) 1

/-- The magnitude of the real nearest to `coefficient / 10 ^ power`.  A number that is `1100` binary
places below one lies under half of the least positive real, and rounds to zero. -/
def scaledDown (coefficient power : Nat) : Nat :=
  if coefficient.log2 + 1100 < 3 * power then 0
  else Binary64.nearestMagnitude coefficient (tenTo power)

/-- The binary64 real nearest to a decimal, with ties to even.  The sign is the decimal's, also on
zero and on infinity. -/
def toBinary64 (d : Decimal) : Binary64 :=
  Binary64.ofMagnitude d.negative <|
    match d.exponent with
    | .ofNat power => scaledUp d.coefficient power
    | .negSucc power => scaledDown d.coefficient (power + 1)

end Decimal

namespace Binary64

/-! ## Texts -/

/-- The magnitude of the NaN that its word stands for. -/
def quietNaN : Nat := 0x7FF8000000000000

/-- The magnitude that a word stands for.  The letters may be of either case. -/
def word? (cs : List Char) : Option Nat :=
  let word := String.ofList (cs.map Char.toLower)
  if word = "inf" || word = "infinity" then some infinity
  else if word = "nan" then some quietNaN
  else none

/-- The real that a text denotes: a decimal, rounded, or a word with an optional sign. -/
def read? (cs : List Char) : Option Binary64 :=
  match Decimal.read? cs with
  | some d => some d.toBinary64
  | none => (word? (Numeral.splitSign cs).2).map (ofMagnitude (Numeral.splitSign cs).1)

end Binary64
end LooseEquality
