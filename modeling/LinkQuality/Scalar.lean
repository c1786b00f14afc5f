/-!
# Scalars

Scoring is arithmetic on measured quantities. The rules are stated once, over any kind of number
that can be added, multiplied, divided, compared and rounded; `Scalar` names those operations and
nothing else. Binary floating point is the kind the program runs on, exact rationals or reals are
kinds the rules can be reasoned about on.

No law is part of the class. Floating point satisfies few of the laws of a field, and a rule that
needs one says so where it is used.

## Main definitions

* `Rounding`: how a number is brought to a whole one
* `Scalar`: the operations the rules are written in
* `Scalar.lesser`, `Scalar.greater`, `Scalar.clamp`: selection that ignores undefined values
-/

namespace LinkQuality

/-- How a number is brought to a whole number. -/
inductive Rounding where
  | towardZero
  | down
  | up
  /-- To the nearest whole number, and away from zero when two are equally near. -/
  | halfAway
  deriving DecidableEq, Repr

/-- A kind of number. -/
class Scalar (α : Type) extends
    Add α, Sub α, Mul α, Div α, Neg α, LT α, LE α, BEq α, OfScientific α where
  /-- Whether one number is below another. -/
  decidableLT : DecidableLT α
  /-- Whether one number is at most another. -/
  decidableLE : DecidableLE α
  /-- The number nearest to an integer. -/
  ofInt : Int → α
  /-- Whether the value stands for no number at all. -/
  isUndefined : α → Bool
  /-- Whether the value is a number of finite size. -/
  isFinite : α → Bool
  /-- The whole number that a number is rounded to. -/
  whole : Rounding → α → α
  /-- The integer part, kept between two bounds; an undefined value has the integer part zero. -/
  toInt : (lower upper : Int) → α → Int
  /-- The integer nearest to a multiple of a number, and the even one of two equally near. -/
  nearestMultiple : (factor : Nat) → α → Int

/-- A kind of number with a value that stands for no number. -/
class Undefined (α : Type) where
  /-- The value that stands for no number. -/
  undefined : α

export Undefined (undefined)

/-- A kind of number with square roots. -/
class SquareRoot (α : Type) where
  /-- The nonnegative square root. -/
  sqrt : α → α

/-- A kind of number with an exponential function. -/
class Exponential (α : Type) where
  /-- The exponential function. -/
  exp : α → α

namespace Scalar

variable {α : Type} [Scalar α]

instance : DecidableLT α := Scalar.decidableLT

instance : DecidableLE α := Scalar.decidableLE

instance (priority := low) instOfNat (n : Nat) : OfNat α n := ⟨Scalar.ofInt n⟩

/-- The number nearest to a natural number. -/
def ofNat (n : Nat) : α := ofInt n

/-- The smaller of two numbers; when one is undefined, the other. -/
def lesser (x y : α) : α :=
  if y < x then y else if isUndefined x then y else x

/-- The larger of two numbers; when one is undefined, the other. -/
def greater (x y : α) : α :=
  if x < y then y else if isUndefined x then y else x

/-- The number of an interval nearest to a given one. An undefined number stays undefined. -/
def clamp (lower upper x : α) : α :=
  if x < lower then lower else if upper < x then upper else x

/-- Whether a number lies in a closed interval. An undefined number lies in none. -/
def within (lower upper x : α) : Bool := decide (lower ≤ x) && decide (x ≤ upper)

/-- Whether a number is at least zero and below a limit. -/
def belowLimit (limit x : α) : Bool := decide (0 ≤ x) && decide (x < limit)

/-- The distance from zero. -/
def magnitude (x : α) : α := if x < 0 then -x else x

/-- The sum of a list, from left to right. It starts at the zero that adding leaves every number,
also a negative zero, as it is. -/
def total (xs : List α) : α := xs.foldl (· + ·) (-0)

/-- The integer part as a 64-bit count: negative numbers count as zero, large ones as the largest
count. -/
def toCount (x : α) : Nat := (toInt 0 0xFFFFFFFFFFFFFFFF x).toNat

/-- The integer part as a 32-bit integer, the nearest one if it does not fit. -/
def toInt32 (x : α) : Int := toInt (-0x80000000) 0x7FFFFFFF x

end Scalar

end LinkQuality
