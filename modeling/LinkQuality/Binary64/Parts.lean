import LinkQuality.Scalar

/-!
# The exact value of a binary floating-point number

A finite number of double precision is a whole number times a power of two. Everything the program
decides about such a number by its exact value is decided on that form: rounding to a whole number,
conversion to an integer, rounding of a multiple, and (in `LinkQuality.Binary64.Shortest`) its
shortest decimal text.

## Main definitions

* `Parts`: sign, significand and exponent
* `parts`: the form of a given number, none for infinities and undefined values
* `Parts.wholeMagnitude`, `Parts.nearestMultiple`: exact rounding
-/

namespace LinkQuality.Binary64

/-- The number `± significand * 2 ^ exponent`. -/
structure Parts where
  negative : Bool
  significand : Nat
  exponent : Int
  deriving DecidableEq, Repr

/-- The parts of a finite number. -/
def parts (x : Float) : Option Parts :=
  let bits := x.toBits.toNat
  let negative := bits / 0x8000000000000000 == 1
  let biased : Nat := bits / 0x10000000000000 % 0x800
  let fraction : Nat := bits % 0x10000000000000
  if biased = 2047 then none
  else if biased = 0 then some ⟨negative, fraction, -1074⟩
  else some ⟨negative, 0x10000000000000 + fraction, (biased : Int) - 1075⟩

namespace Parts

/-- Gives a magnitude the sign of the number. -/
def signed (p : Parts) (magnitude : Nat) : Int :=
  if p.negative then -(magnitude : Int) else magnitude

/-- The magnitude of the whole number that the number is rounded to. -/
def wholeMagnitude (p : Parts) (rounding : Rounding) : Nat :=
  if 0 ≤ p.exponent then p.significand * Nat.pow 2 p.exponent.toNat
  else
    let unit := Nat.pow 2 (-p.exponent).toNat
    let quotient := p.significand / unit
    let remainder := p.significand % unit
    let awayFromZero := match rounding with
      | .towardZero => false
      | .down => p.negative && remainder != 0
      | .up => !p.negative && remainder != 0
      | .halfAway => unit ≤ 2 * remainder
    if awayFromZero then quotient + 1 else quotient

/-- The integer nearest to `factor` times the number, and the even one of two equally near. -/
def nearestMultiple (p : Parts) (factor : Nat) : Int :=
  let multiple := p.significand * factor
  if 0 ≤ p.exponent then p.signed (multiple * Nat.pow 2 p.exponent.toNat)
  else
    let unit := Nat.pow 2 (-p.exponent).toNat
    let quotient := multiple / unit
    let remainder := multiple % unit
    if unit < 2 * remainder || (unit == 2 * remainder && quotient % 2 == 1) then
      p.signed (quotient + 1)
    else p.signed quotient

end Parts

/-- The whole number that a number is rounded to, with the sign of the number. Infinities and
undefined values are kept. -/
def whole (rounding : Rounding) (x : Float) : Float :=
  match parts x with
  | none => x
  | some p =>
    if 0 ≤ p.exponent then x
    else
      let magnitude := Float.ofNat (p.wholeMagnitude rounding)
      if p.negative then -magnitude else magnitude

/-- The integer part of a number, kept between two bounds. -/
def toInt (lower upper : Int) (x : Float) : Int :=
  match parts x with
  | some p => max lower (min upper (p.signed (p.wholeMagnitude .towardZero)))
  | none => if x.isNaN then 0 else if x < 0 then lower else upper

/-- The integer nearest to a multiple of a finite number; zero for other values. -/
def nearestMultiple (factor : Nat) (x : Float) : Int :=
  match parts x with
  | some p => p.nearestMultiple factor
  | none => 0

end LinkQuality.Binary64
