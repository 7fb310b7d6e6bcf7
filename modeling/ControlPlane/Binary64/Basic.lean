/-!
# Binary floating-point numbers of 64 bits

A number is held as its bit pattern: a sign bit, eleven exponent bits and 52 fraction bits. All
operations are exact integer arithmetic on the pattern, so that they can be computed with and
reasoned about alike.

## Main definitions

- `Binary64`: a bit pattern.
- `Binary64.significand`, `Binary64.exponent`: the magnitude is `significand * 2 ^ exponent`.
- `Binary64.nearest?`: the number nearest to a quotient of whole numbers.
-/

namespace ControlPlane

/-- A floating-point number, as its 64-bit pattern. -/
structure Binary64 where
  /-- Sign, exponent and fraction, from the highest bit down. -/
  bits : UInt64
deriving DecidableEq

namespace Binary64

/-- The weight of the sign bit in a pattern. -/
def signBit : Nat := 0x8000000000000000

/-- The weight of the bit that normal numbers have above their fraction without its being
written. -/
def hiddenBit : Nat := 0x10000000000000

/-- Whether the sign bit is set. -/
def negative (x : Binary64) : Bool := decide (signBit ≤ x.bits.toNat)

/-- The pattern without its sign bit. -/
def magnitudeBits (x : Binary64) : Nat := x.bits.toNat % signBit

/-- The exponent field: zero for the subnormal numbers, 2047 for what is no number. -/
def exponentField (x : Binary64) : Nat := x.magnitudeBits / hiddenBit

/-- The magnitude as a whole multiple of a power of two, with the hidden bit of normal numbers. -/
def significand (x : Binary64) : Nat :=
  if x.exponentField = 0 then x.magnitudeBits else x.magnitudeBits % hiddenBit + hiddenBit

/-- The power of two that belongs to `significand`. -/
def exponent (x : Binary64) : Int :=
  if x.exponentField = 0 then -1074 else (x.exponentField : Int) - 1075

/-- Whether the number is zero of either sign. -/
def isZero (x : Binary64) : Bool := x.magnitudeBits == 0

/-- The number with magnitude pattern `magnitude` and the given sign. -/
def ofMagnitude (negative : Bool) (magnitude : Nat) : Binary64 :=
  ⟨UInt64.ofNat ((if negative then signBit else 0) + magnitude)⟩

/-- `num / den` to the nearest whole number, a half to the even neighbour. -/
def roundQuotient (num den : Nat) : Nat :=
  let q := num / den
  let twice := 2 * (num % den)
  if twice < den then q
  else if den < twice then q + 1
  else if q % 2 = 0 then q else q + 1

/-- `num / den * 2 ^ shift` as a quotient of whole numbers. -/
def shiftQuotient (num den : Nat) (shift : Int) : Nat × Nat :=
  if 0 ≤ shift then (num <<< shift.toNat, den) else (num, den <<< (-shift).toNat)

/-- The largest `e` with `2 ^ e ≤ num / den`, for positive `num` and `den`. -/
def floorLog2 (num den : Nat) : Int :=
  let guess : Int := (Nat.log2 num : Int) - (Nat.log2 den : Int)
  let (n, d) := shiftQuotient num den (-guess)
  if d ≤ n then guess else guess - 1

/-- The magnitude pattern of the number nearest to `num / den`, if it is small enough to have one.
The unit in the last place is `2 ^ unit`; rounding up into the next power of two carries into the
exponent field by itself. -/
def nearestMagnitude? (num den : Nat) : Option Nat :=
  if num = 0 then some 0
  else
    let unit := max (floorLog2 num den - 52) (-1074)
    let (n, d) := shiftQuotient num den (-unit)
    let pattern := (unit + 1074).toNat * hiddenBit + roundQuotient n d
    if pattern < 2047 * hiddenBit then some pattern else none

/-- The number with the given sign that is nearest to `num / den`, if there is one. -/
def nearest? (negative : Bool) (num den : Nat) : Option Binary64 :=
  (nearestMagnitude? num den).map (ofMagnitude negative)

end Binary64

end ControlPlane
