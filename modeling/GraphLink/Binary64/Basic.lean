import GraphLink.Rounding

/-! # Binary64 — floating-point numbers as bit patterns

    A `Binary64` is the sixty-four bits of an IEEE 754 double.  Arithmetic on it is done outside
    floating point: the magnitude of a finite number is a whole number of **units**, one unit being
    the least positive number, `2 ^ -1074`.  With `units` every finite double is an integer, exact
    rational questions become questions about natural numbers, and rounding a fraction to a double
    is one integer rounding (`ofRatio`). -/

namespace GraphLink

/-- A floating-point number, as its bits. -/
structure Binary64 where
  /-- Sign, eleven bits of exponent, fifty-two bits of fraction. -/
  bits : UInt64
  deriving DecidableEq, Repr, Inhabited

namespace Binary64

/-- One is this many units: `2 ^ 1074`. -/
def one : Nat := Nat.pow 2 1074

/-- The bits of positive infinity; finite magnitudes lie below. -/
def infinityBits : Nat := 0x7FF0000000000000

/-- Whether the sign bit is set. -/
def isNegative (x : Binary64) : Bool :=
  Nat.pow 2 63 ≤ x.bits.toNat

/-- The bits without the sign. -/
def magnitudeBits (x : Binary64) : Nat :=
  x.bits.toNat % Nat.pow 2 63

def isNaN (x : Binary64) : Bool :=
  infinityBits < x.magnitudeBits

def isInfinite (x : Binary64) : Bool :=
  x.magnitudeBits == infinityBits

def isFinite (x : Binary64) : Bool :=
  x.magnitudeBits < infinityBits

/-- The magnitude that unsigned bits below infinity denote, in units.  Below `2 ^ 53` it is the
    bits themselves; above, each step of the exponent doubles it. -/
def unitsOfBits (b : Nat) : Nat :=
  let exponent := b / Nat.pow 2 52
  let fraction := b % Nat.pow 2 52
  if exponent = 0 then fraction else (Nat.pow 2 52 + fraction) * Nat.pow 2 (exponent - 1)

/-- The magnitude of a finite number, in units. -/
def units (x : Binary64) : Nat :=
  unitsOfBits x.magnitudeBits

/-- The number with the given sign and unsigned bits. -/
def ofMagnitudeBits (negative : Bool) (b : Nat) : Binary64 :=
  ⟨UInt64.ofNat (if negative then Nat.pow 2 63 + b else b)⟩

/-- **EQUALITY OF NUMBERS**, not of bits: a NaN equals nothing and the two zeros are equal. -/
def equal (x y : Binary64) : Bool :=
  !x.isNaN && !y.isNaN && (x == y || (x.magnitudeBits == 0 && y.magnitudeBits == 0))

/-- The unsigned bits of the double nearest to `a / b` units, ties to even, where all magnitudes
    from the greatest finite one's upper boundary on go to infinity.

    The spacing of doubles around `a / b` is `2 ^ s` units with `s` the bits that the quotient has
    above fifty-three; on that grid the rounded value is an integer whose bits follow by adding
    `s` steps of the exponent, also when rounding carries into the next one. -/
def nearestBits (a b : Nat) : Nat :=
  let s := (a / b).log2 - 52
  min (s * Nat.pow 2 52 + roundHalfEven a (b * Nat.pow 2 s)) infinityBits

/-- The double nearest to `a / b`, with a sign; infinite when there is none of that size. -/
def ofRatio (negative : Bool) (a b : Nat) : Binary64 :=
  ofMagnitudeBits negative (nearestBits (a * one) b)

/-- The double nearest to an integer. -/
def ofInt (i : Int) : Binary64 :=
  ofRatio (i < 0) i.natAbs 1

end Binary64
end GraphLink
