import ControlPlane.Binary64.Basic

/-!
# Multiplying, dividing and scaling by powers of ten

Each operation computes the exact result on whole numbers and rounds it once. A number is brought
to a power of ten by as few such operations as the largest power of ten that is a number allows,
so the result is not always the number nearest to the exact product.

## Main definitions

- `Binary64.mul?`, `Binary64.div?`: product and quotient, rounded to nearest.
- `Binary64.tenPower?`: the number nearest to a power of ten.
- `Binary64.scaleTen?`: a number times a power of ten, rounded after every operation.
-/

namespace ControlPlane.Binary64

/-- The number nearest to the product of two finite numbers, if it is small enough to have one. -/
def mul? (x y : Binary64) : Option Binary64 :=
  let (num, den) := shiftQuotient (x.significand * y.significand) 1 (x.exponent + y.exponent)
  nearest? (x.negative != y.negative) num den

/-- The number nearest to the quotient of two finite numbers, if there is one. -/
def div? (x y : Binary64) : Option Binary64 :=
  if y.isZero then none
  else
    let (num, den) := shiftQuotient x.significand y.significand (x.exponent - y.exponent)
    nearest? (x.negative != y.negative) num den

/-- The number nearest to `10 ^ n`, if there is one. -/
def tenPower? (n : Nat) : Option Binary64 := nearest? false (Nat.pow 10 n) 1

/-- The largest power of ten that has a nearest number. -/
def greatestTenPower : Nat := 308

/-- `x * 10 ^ scale`, if it is small enough. The factor is applied by one multiplication or
division; a scale below the least power of ten is reached by dividing several times. -/
def scaleTen? (x : Binary64) (scale : Int) : Option Binary64 :=
  if scale.natAbs ≤ greatestTenPower then
    (tenPower? scale.natAbs).bind fun power =>
      if 0 ≤ scale then x.mul? power else x.div? power
  else if x.isZero then some x
  else if 0 ≤ scale then none
  else
    ((tenPower? greatestTenPower).bind x.div?).bind fun y => scaleTen? y (scale + greatestTenPower)
termination_by scale.natAbs
decreasing_by
  simp only [greatestTenPower] at *
  omega

end ControlPlane.Binary64
