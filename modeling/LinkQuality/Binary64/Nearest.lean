/-!
# The floating-point number nearest to a decimal

A decimal text stands for the floating-point number nearest to it. Powers of ten far outside the
range of double precision are settled by their size, without computing them.
-/

namespace LinkQuality.Binary64

/-- The number nearest to `digits * 10 ^ exponent`, unless it is beyond the largest one. -/
def nearest? (digits : Nat) (exponent : Int) : Option Float :=
  let magnitude := exponent + (Nat.toDigits 10 digits).length
  if digits = 0 ∨ magnitude < -330 then some 0
  else if 310 < magnitude then none
  else
    let x := Float.ofScientific digits (decide (exponent < 0)) exponent.natAbs
    if x.isFinite then some x else none

end LinkQuality.Binary64
