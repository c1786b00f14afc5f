/-!
# JSON values

A JSON document as a tree. Numbers are kept the way they were written, because a whole number and a
number with a fraction are different things to a reader of records, and because the written digits
decide which floating-point number is meant. Texts may fail to be text: an escape can name half of
a surrogate pair, and such a string can be skipped but not read.

## Main definitions

* `Numeral`: a number as written
* `Json`: a document
-/

namespace LinkQuality

/-- A number as it is written in JSON. -/
structure Numeral where
  negative : Bool
  /-- The digits before the point. -/
  whole : Nat
  /-- The digits after the point; none if there is no point. -/
  fraction : List Nat
  /-- The power of ten written after the digits. -/
  exponent : Option Int
  deriving DecidableEq, Repr

namespace Numeral

/-- The numeral of an integer. -/
def ofInt (n : Int) : Numeral := ⟨decide (n < 0), n.natAbs, [], none⟩

/-- Whether the number is written without a point and without an exponent. -/
def isWhole (n : Numeral) : Bool := n.fraction.isEmpty && n.exponent.isNone

/-- The integer that is meant. Numbers with a point or an exponent mean none, and neither do
integers beyond 64 bits and a negative zero. -/
def toInt? (n : Numeral) : Option Int :=
  if !n.isWhole then none
  else if n.negative then
    if 1 ≤ n.whole ∧ n.whole ≤ 0x8000000000000000 then some (-(n.whole : Int)) else none
  else if n.whole < 0x10000000000000000 then some n.whole else none

/-- The longest start of the digits of a number that fits 64 bits, and how many digits are left
out. -/
def leadingDigits (n : Nat) : Nat × Nat :=
  if n < 0x10000000000000000 then (n, 0)
  else
    let (kept, dropped) := leadingDigits (n / 10)
    (kept, dropped + 1)
termination_by n
decreasing_by omega

/-- Appends digits to a number while it fits 64 bits, and counts the digits appended. -/
def appendDigits (n : Nat) : List Nat → Nat × Nat
  | [] => (n, 0)
  | digit :: rest =>
    if n * 10 + digit < 0x10000000000000000 then
      let (extended, places) := appendDigits (n * 10 + digit) rest
      (extended, places + 1)
    else (n, 0)

/-- A number of at most 64 bits times a power of ten, with one multiplication or division, or two
divisions for very small results. There is none beyond the largest floating-point number. -/
def scale (significand : Nat) (exponent : Int) : Option Float :=
  let power (n : Nat) : Float := Float.ofScientific 1 false n
  let start := Float.ofNat significand
  if significand = 0 then some start
  else if 308 < exponent then none
  else if 0 ≤ exponent then
    let product := start * power exponent.toNat
    if product.isFinite then some product else none
  else if -308 ≤ exponent then some (start / power (-exponent).toNat)
  -- No power of ten above 308 is a floating-point number, so there are two divisors.
  else if -616 ≤ exponent then some (start / power 308 / power (-exponent - 308).toNat)
  else some 0

/-- The floating-point number that is meant: as many leading digits as fit 64 bits, times a power
of ten. Beyond the largest floating-point number none is meant. -/
def toFloat? (n : Numeral) : Option Float :=
  let (kept, dropped) := leadingDigits n.whole
  let (significand, places) := appendDigits kept n.fraction
  let exponent := n.exponent.getD 0 + (dropped : Int) - (places : Int)
  (scale significand exponent).map fun magnitude => if n.negative then -magnitude else magnitude

end Numeral

/-- A JSON document. A string or a key without a text holds half of a surrogate pair. -/
inductive Json where
  | null
  | bool (value : Bool)
  | number (value : Numeral)
  | string (text : Option String)
  | array (items : List Json)
  | object (members : List (Option String × Json))
  deriving Repr

namespace Json

instance : Inhabited Json := ⟨.null⟩

/-- A text. -/
def text (s : String) : Json := .string (some s)

/-- An integer. -/
def int (n : Int) : Json := .number (.ofInt n)

/-- A natural number. -/
def nat (n : Nat) : Json := .number (.ofInt n)

/-- An object with the given members. -/
def record (members : List (String × Json)) : Json :=
  .object (members.map fun (key, value) => (some key, value))

end Json

end LinkQuality
