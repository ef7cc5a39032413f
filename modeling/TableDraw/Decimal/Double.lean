set_option autoImplicit false

/-!
Double-precision approximations of decimal numbers: the significand is rounded once and then scaled
by rounded powers of ten, so the result may be a neighbour of the nearest double.
-/

namespace TableDraw.Decimal

/-- The double nearest to `10^k`, for `k ≤ 308`. -/
def powerOfTen (k : Nat) : Float := Float.ofScientific 1 false k

/-- Divides by `10^k`, in steps of `10^308` while the quotient is not zero yet. -/
def scaleDown (f : Float) (k : Nat) : Float :=
  if k ≤ 308 then f / powerOfTen k
  else if f == 0 then f
  else scaleDown (f / powerOfTen 308) (k - 308)
  termination_by k

/-- The approximation of `significand * 10^exponent`; there is none beyond the largest double. -/
def approximate (significand : UInt64) (exponent : Int) : Option Float :=
  let f := significand.toFloat
  if exponent < 0 then some (scaleDown f (-exponent).toNat)
  else if exponent ≤ 308 then
    let product := f * powerOfTen exponent.toNat
    if product.isInf then none else some product
  else if f == 0 then some f
  else none

end TableDraw.Decimal
