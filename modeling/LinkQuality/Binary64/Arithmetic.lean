import LinkQuality.Binary64.Parts

/-!
# Binary floating point as a kind of number

Double precision with its own operations and comparisons: the scalars the program computes with.
Rounding to integers is exact, on the parts of the number.
-/

namespace LinkQuality.Binary64

instance : Scalar Float where
  decidableLT := inferInstance
  decidableLE := inferInstance
  ofInt := Float.ofInt
  isUndefined := Float.isNaN
  isFinite := Float.isFinite
  whole := whole
  toInt := toInt
  nearestMultiple := nearestMultiple

instance : Undefined Float := ⟨Float.ofBits 0x7FF8000000000000⟩

instance : SquareRoot Float := ⟨Float.sqrt⟩

instance : Exponential Float := ⟨Float.exp⟩

end LinkQuality.Binary64
