/-!
# Binary64 reals

A real is its 64-bit pattern: a sign bit, eleven bits of exponent and fifty-two bits of fraction.
Nothing in this library computes with reals, so the module holds just what comparing and reading
them needs, in exact integer arithmetic:

* what a pattern denotes.  Every finite real is an integer multiple of the least positive one,
  `2⁻¹⁰⁷⁴`, and `Binary64.units` is that integer;
* the real nearest to a fraction (`Binary64.nearest`), with ties going to the even neighbour;
* conversions between reals and integers (`Binary64.ofInt`, `Binary64.toInt128`);
* when two reals, or a real and an integer, are equal as numbers (`Binary64.equal`,
  `Binary64.equalsInt`).

## The order of magnitudes

Without its sign bit a pattern is a number below `2⁶³`, its *magnitude*.  Magnitudes are ordered
like the numbers they denote: `0` is zero, the patterns below `infinity` are the finite reals one
after another, `infinity` is infinite, and all above it are not numbers.  So the real that follows
another one has the next magnitude, and rounding a fraction is a matter of finding a magnitude;
the step from the largest finite real to infinity needs no case of its own.
-/

namespace LooseEquality

/-- A binary64 real, given by its bit pattern.  Two patterns may denote one number (`0` and `-0`)
and many denote no number, so equality of patterns is not equality of reals; see
`Binary64.equal`. -/
structure Binary64 where
  bits : UInt64
  deriving DecidableEq

namespace Binary64

/-! ## Fields of a pattern -/

/-- The weight of the sign bit in a pattern, `2⁶³`. -/
def signWeight : Nat := 0x8000000000000000

/-- The weight of the lowest bit of the exponent in a pattern, `2⁵²`.  A fraction is below it. -/
def exponentWeight : Nat := 0x10000000000000

/-- Whether the sign bit is set. -/
def isNegative (x : Binary64) : Bool := decide (signWeight ≤ x.bits.toNat)

/-- The pattern without its sign bit. -/
def magnitude (x : Binary64) : Nat := x.bits.toNat % signWeight

/-- The magnitude of the infinite reals: all exponent bits set, no fraction bit set. -/
def infinity : Nat := 2047 * exponentWeight

/-- Neither infinite nor a NaN. -/
def isFinite (x : Binary64) : Bool := decide (x.magnitude < infinity)

/-- Not a number. -/
def isNaN (x : Binary64) : Bool := decide (infinity < x.magnitude)

/-- `0` or `-0`. -/
def isZero (x : Binary64) : Bool := x.magnitude == 0

/-- The pattern with a given sign and magnitude. -/
def ofMagnitude (negative : Bool) (m : Nat) : Binary64 :=
  ⟨UInt64.ofNat (if negative then signWeight + m else m)⟩

/-! ## What a pattern denotes -/

/-- The number of units of `2⁻¹⁰⁷⁴` in one. -/
def unitsPerOne : Nat := 1 <<< 1074

/-- The absolute value of a finite real, counted in units of `2⁻¹⁰⁷⁴`.  With a zero exponent field
the fraction is the count itself; otherwise the fraction has an implicit leading one and each step
of the exponent doubles it. -/
def units (x : Binary64) : Nat :=
  let exponent := x.magnitude / exponentWeight
  let fraction := x.magnitude % exponentWeight
  if exponent = 0 then fraction else (exponentWeight + fraction) <<< (exponent - 1)

/-- The signed count of units of `2⁻¹⁰⁷⁴` in a finite real. -/
def signedUnits (x : Binary64) : Int :=
  if x.isNegative then -(x.units : Int) else x.units

/-! ## The real nearest to a fraction -/

/-- The integer nearest to `num / den`; of two equally near ones the even one. -/
def roundDiv (num den : Nat) : Nat :=
  let quotient := num / den
  let twice := 2 * (num % den)
  if twice < den then quotient
  else if den < twice then quotient + 1
  else quotient + quotient % 2

/-- The magnitude of the real nearest to `num / den`.

The fraction is first counted in units of `2⁻¹⁰⁷⁴`.  A count below `2⁵³` is kept to the unit; for a
larger one the spacing of reals is `2 ^ shift` units, chosen so that the count has fifty-three
bits.  The number of spacings, rounded, is then a significand, and adding it to `shift` exponent
steps yields the magnitude.  A significand rounded up to `2⁵³` carries into the exponent by itself,
and whatever would lie beyond the finite reals is infinite. -/
def nearestMagnitude (num den : Nat) : Nat :=
  let scaled := num * unitsPerOne
  let shift := (scaled / den).log2 - 52
  min infinity (shift * exponentWeight + roundDiv scaled (den <<< shift))

/-- The real nearest to `± num / den`, for a positive `den`.  The sign is kept on zero. -/
def nearest (negative : Bool) (num den : Nat) : Binary64 :=
  ofMagnitude negative (nearestMagnitude num den)

/-! ## Conversions -/

/-- The real nearest to an integer. -/
def ofInt (i : Int) : Binary64 := nearest (decide (i < 0)) i.natAbs 1

/-- The least 128-bit integer, `-2¹²⁷`. -/
def leastInt128 : Int := -0x80000000000000000000000000000000

/-- The greatest 128-bit integer, `2¹²⁷ - 1`. -/
def greatestInt128 : Int := 0x7FFFFFFFFFFFFFFFFFFFFFFFFFFFFFFF

/-- The 128-bit integer that an integer is brought to: the nearest one in range. -/
def clampInt128 (i : Int) : Int :=
  if i < leastInt128 then leastInt128
  else if greatestInt128 < i then greatestInt128
  else i

/-- The 128-bit integer of a real.  Digits after the point are cut off, a number out of range goes to
the end of the range on its side, and a NaN to zero. -/
def toInt128 (x : Binary64) : Int :=
  if x.isNaN then 0
  else if x.isFinite then clampInt128 (x.signedUnits.tdiv unitsPerOne)
  else if x.isNegative then leastInt128
  else greatestInt128

/-! ## Equality of numbers -/

/-- Equality of reals: a NaN equals nothing, `0` equals `-0`, and otherwise a number has one
pattern. -/
def equal (x y : Binary64) : Bool :=
  !x.isNaN && !y.isNaN && (x.bits == y.bits || (x.isZero && y.isZero))

/-- Equality of a real and a 64-bit integer.  Beyond `2⁵³` a real may be the nearest to an integer
without being equal to it, so the real is converted as well, to a type that has room for every real
that is nearest to a 64-bit integer. -/
def equalsInt (x : Binary64) (i : Int64) : Bool :=
  x.equal (ofInt i.toInt) && x.toInt128 == i.toInt

end Binary64
end LooseEquality
