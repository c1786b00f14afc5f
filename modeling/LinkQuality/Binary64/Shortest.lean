import LinkQuality.Binary64.Parts

/-!
# The shortest decimal text of a binary floating-point number

Every decimal number between the halfway points to the two neighbours of a floating-point number
reads back as that number; the halfway points themselves do so when the significand is even. Among
the decimals that read back, the text shows one with the fewest digits, of those the nearest to the
number, and of two equally near the larger.

The search tries one digit, then two, and so on. A grid of decimals with a given number of digits
that has a point in the interval has one next to the number, so it is enough to look at the two
points of the grid on either side of it.

## Main definitions

* `Decimal`: digits and a power of ten
* `Parts.readsBack`: whether a decimal lies in the interval that reads back as the number
* `Parts.shortest`: the decimal that is shown
* `text`: the number as text, without an exponent
-/

namespace LinkQuality.Binary64

/-- The number `digits * 10 ^ exponent`. -/
structure Decimal where
  digits : Nat
  exponent : Int
  deriving DecidableEq, Repr

/-- Compares `a * 10 ^ i` with `b * 2 ^ j`. -/
def compareScaled (a : Nat) (i : Int) (b : Nat) (j : Int) : Ordering :=
  compare (a * Nat.pow 10 i.toNat * Nat.pow 2 (-j).toNat)
    (b * Nat.pow 2 j.toNat * Nat.pow 10 (-i).toNat)

namespace Parts

/-- Whether the neighbour toward zero is half as far as the neighbour away from zero, as it is at
a power of two that is not the least one with a full significand. -/
def narrowBelow (p : Parts) : Bool :=
  p.significand == 0x10000000000000 && decide (-1074 < p.exponent)

/-- Whether a decimal lies among the numbers that read back as the magnitude of this one. -/
def readsBack (p : Parts) (d : Decimal) : Bool :=
  let lowest := if p.narrowBelow then 4 * p.significand - 1 else 4 * p.significand - 2
  let highest := 4 * p.significand + 2
  let endsIncluded := p.significand % 2 == 0
  let below := compareScaled d.digits d.exponent lowest (p.exponent - 2)
  let above := compareScaled d.digits d.exponent highest (p.exponent - 2)
  (below == .gt || (endsIncluded && below == .eq)) &&
    (above == .lt || (endsIncluded && above == .eq))

/-- The largest multiple of `10 ^ exponent` that is not above the magnitude of the number. -/
def gridFloor (p : Parts) (exponent : Int) : Nat :=
  p.significand * Nat.pow 2 p.exponent.toNat * Nat.pow 10 (-exponent).toNat /
    (Nat.pow 2 (-p.exponent).toNat * Nat.pow 10 exponent.toNat)

/-- Whether the point above the number on the grid of `10 ^ exponent` is at most as far as the
point below. -/
def upperIsNearer (p : Parts) (exponent : Int) (lower : Nat) : Bool :=
  compareScaled (2 * lower + 1) exponent (2 * p.significand) p.exponent != .gt

/-- The point of the grid of `10 ^ exponent` that is shown, if one next to the number reads
back. -/
def onGrid? (p : Parts) (exponent : Int) : Option Decimal :=
  let lower : Decimal := ⟨p.gridFloor exponent, exponent⟩
  let upper : Decimal := ⟨lower.digits + 1, exponent⟩
  match p.readsBack lower, p.readsBack upper with
  | true, true => some (if p.upperIsNearer exponent lower.digits then upper else lower)
  | true, false => some lower
  | false, true => some upper
  | false, false => none

/-- An exponent of ten that is above the magnitude of the number by at most a few places. -/
def decimalMagnitude (p : Parts) : Int :=
  ((Nat.log2 p.significand : Int) + p.exponent + 1) * 30103 / 100000 + 1

/-- The exact value of the number as a decimal. -/
def exactDecimal (p : Parts) : Decimal :=
  ⟨p.significand * Nat.pow 2 p.exponent.toNat * Nat.pow 5 (-p.exponent).toNat, min p.exponent 0⟩

/-- The decimal that is shown for a number other than zero: the first grid, from coarse to fine,
with a point that reads back. -/
def shortest (p : Parts) : Decimal :=
  let grids := (List.range 22).map fun (place : Nat) => p.decimalMagnitude + 1 - (place : Int)
  (grids.findSome? p.onGrid?).getD p.exactDecimal

end Parts

/-- Writes a decimal with a point where it is needed and without an exponent. -/
def Decimal.text (d : Decimal) : String :=
  let digits := Nat.toDigits 10 d.digits
  if 0 ≤ d.exponent then
    String.ofList (digits ++ List.replicate d.exponent.toNat '0')
  else
    let places := (-d.exponent).toNat
    let padded := List.replicate (places + 1 - digits.length) '0' ++ digits
    let split := padded.length - places
    String.ofList (padded.take split ++ '.' :: padded.drop split)

/-- The text of a number in messages. -/
def text (x : Float) : String :=
  match parts x with
  | some p =>
    let magnitude := if p.significand = 0 then "0" else p.shortest.text
    if p.negative then "-" ++ magnitude else magnitude
  | none => if x.isNaN then "NaN" else if x < 0 then "-inf" else "inf"

end LinkQuality.Binary64
