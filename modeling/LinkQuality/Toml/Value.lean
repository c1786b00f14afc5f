import LinkQuality.Binary64.Arithmetic
import LinkQuality.Binary64.Nearest

/-!
# TOML values

A value is a text, a number, a boolean, a date or time, an array or a table. How a table came to be
decides what may still be added to it, so tables remember it.

The scalars that are not quoted are read from the characters between the punctuation around them.
Underscores may stand between the digits of a number, and a number has no needless zeros in front.

What is written like a number need not be one: it may be beyond the range of its kind, or begin as
an integer and go on with something else after an underscore. It is a value of its own, so that a
document can be read around it: a fault only where somebody looks at it.

## Main definitions

* `Value`: a value
* `Value.isValid`: whether every number in a value is one
* `Unquoted.underscoresFit`, `Unquoted.decimal?`, `Unquoted.isMoment`: how scalars are written
* `Value.ofChars?`: the value that an unquoted scalar stands for
-/

namespace LinkQuality.Toml

/-- How a table came to be. -/
inductive Origin where
  /-- It has a header, or it is the whole document. -/
  | headed
  /-- It is on the path of another header. -/
  | implied
  /-- It is on the path of a dotted key. -/
  | dotted
  /-- It is written in braces, and complete. -/
  | inline
  deriving DecidableEq, Repr

/-- A TOML value. -/
inductive Value where
  | text (chars : List Char)
  | integer (n : Int)
  | float (x : Float)
  /-- What is written like a number and stands for none. -/
  | invalidNumber
  | boolean (b : Bool)
  | moment (written : List Char)
  | array (items : List Value)
  /-- Tables with the same header in double brackets. -/
  | tables (items : List (List (List Char × Value)))
  | table (origin : Origin) (entries : List (List Char × Value))
  deriving Repr

/-- The entries of a table, in the order they were written. -/
abbrev Entries := List (List Char × Value)

mutual

/-- Whether every number in a value is one. -/
def Value.isValid : Value → Bool
  | .invalidNumber => false
  | .array items => Value.areValid items
  | .tables items => Value.tablesAreValid items
  | .table _ entries => Value.entriesAreValid entries
  | _ => true

/-- Whether every number in an array is one. -/
def Value.areValid : List Value → Bool
  | [] => true
  | value :: rest => value.isValid && Value.areValid rest

/-- Whether every number in the entries of a table is one. -/
def Value.entriesAreValid : List (List Char × Value) → Bool
  | [] => true
  | (_, value) :: rest => value.isValid && Value.entriesAreValid rest

/-- Whether every number in several tables is one. -/
def Value.tablesAreValid : List (List (List Char × Value)) → Bool
  | [] => true
  | entries :: rest => Value.entriesAreValid entries && Value.tablesAreValid rest

end

namespace Unquoted

/-- The value of a digit in a base of at most sixteen. -/
def digit? (base : Nat) (c : Char) : Option Nat :=
  let value :=
    if c.isDigit then c.toNat - '0'.toNat
    else if 'a' ≤ c ∧ c ≤ 'f' then c.toNat - 'a'.toNat + 10
    else if 'A' ≤ c ∧ c ≤ 'F' then c.toNat - 'A'.toNat + 10
    else 16
  if value < base then some value else none

/-- Whether a character is a digit in a base of at most sixteen. -/
def isDigitIn (base : Nat) (c : Char) : Bool := (digit? base c).isSome

/-- Whether every underscore stands between two digits. What stands before the text may count as
one. -/
def underscoresFit (base : Nat) : (afterDigit : Bool) → List Char → Bool
  | _, [] => true
  | _, ['_'] => false
  | afterDigit, '_' :: c :: rest => afterDigit && isDigitIn base c && underscoresFit base true rest
  | _, c :: rest => underscoresFit base (isDigitIn base c) rest

/-- The text without its underscores. -/
def dropUnderscores (text : List Char) : List Char := text.filter (· != '_')

/-- Reads at least one digit. -/
def digits? (base : Nat) (text : List Char) : Option (List Nat) :=
  if text.isEmpty then none else text.mapM (digit? base)

/-- The number that digits write. -/
def ofDigits (base : Nat) (digits : List Nat) : Nat :=
  digits.foldl (fun value digit => value * base + digit) 0

/-- Whether a zero in front of a number is needless. -/
def hasNeedlessZero : List Char → Bool
  | '0' :: c :: _ => c.isDigit || c == '_'
  | _ => false

/-- Splits off the sign in front of a number. -/
def splitSign : List Char → Option Char × List Char
  | '-' :: rest => (some '-', rest)
  | '+' :: rest => (some '+', rest)
  | text => (none, text)

/-- A natural number with a sign in front of it. -/
def signed (sign : Option Char) (n : Nat) : Int := if sign = some '-' then -(n : Int) else n

/-- Reads the exponent of a number, with zeros in front or without. -/
def exponent? (text : List Char) : Option Int :=
  let (sign, unsigned) := splitSign text
  (digits? 10 unsigned).map fun digits => signed sign (ofDigits 10 digits)

/-- Splits a text at the first character of a kind, which is dropped. -/
def splitAt? (p : Char → Bool) (text : List Char) : Option (List Char × List Char) :=
  match text.dropWhile (fun c => !p c) with
  | [] => none
  | _ :: after => some (text.takeWhile (fun c => !p c), after)

/-- Reads the digits of a number without its exponent: those before and those after the point. -/
def mantissa? (text : List Char) : Option (List Nat × List Nat) :=
  match splitAt? (· == '.') text with
  | none => (digits? 10 text).map fun whole => (whole, [])
  | some (whole, fraction) => do
    let whole ← digits? 10 whole
    let fraction ← digits? 10 fraction
    some (whole, fraction)

/-- Reads a number with a point, an exponent or both, without sign and underscores: a natural number
and the power of ten that it is multiplied by. -/
def decimal? (text : List Char) : Option (Nat × Int) := do
  let (mantissa, exponent) ← match splitAt? (fun c => c == 'e' || c == 'E') text with
    | none => some (text, 0)
    | some (mantissa, written) => (exponent? written).map fun exponent => (mantissa, exponent)
  let (whole, fraction) ← mantissa? mantissa
  some (ofDigits 10 (whole ++ fraction), exponent - fraction.length)

/-- Reads two decimal digits as a number between two bounds. -/
def twoDigits? (lower upper : Nat) (tens ones : Char) : Option Nat := do
  let tens ← digit? 10 tens
  let ones ← digit? 10 ones
  let value := tens * 10 + ones
  if lower ≤ value ∧ value ≤ upper then some value else none

/-- The days of a month. -/
def daysOfMonth (year month : Nat) : Nat :=
  if month = 2 then
    if year % 4 = 0 ∧ (year % 100 ≠ 0 ∨ year % 400 = 0) then 29 else 28
  else if month ∈ [4, 6, 9, 11] then 30
  else 31

/-- What follows a date at the start of a text. -/
def afterDate? : List Char → Option (List Char)
  | y₁ :: y₂ :: y₃ :: y₄ :: '-' :: m₁ :: m₂ :: '-' :: d₁ :: d₂ :: rest => do
    let century ← twoDigits? 0 99 y₁ y₂
    let year ← twoDigits? 0 99 y₃ y₄
    let month ← twoDigits? 1 12 m₁ m₂
    let _ ← twoDigits? 1 (daysOfMonth (century * 100 + year) month) d₁ d₂
    some rest
  | _ => none

/-- What follows the seconds of a time of day. They may be left out. -/
def afterSeconds? : List Char → Option (List Char)
  | ':' :: s₁ :: s₂ :: rest => do
    let _ ← twoDigits? 0 60 s₁ s₂
    match rest with
    | '.' :: c :: rest =>
      if c.isDigit then some (rest.dropWhile Char.isDigit) else none
    | rest => some rest
  | rest => some rest

/-- What follows a time of day at the start of a text. -/
def afterTime? : List Char → Option (List Char)
  | h₁ :: h₂ :: ':' :: m₁ :: m₂ :: rest => do
    let _ ← twoDigits? 0 23 h₁ h₂
    let _ ← twoDigits? 0 59 m₁ m₂
    afterSeconds? rest
  | _ => none

/-- Whether a text is empty or the distance of a time zone. -/
def isOffset : List Char → Bool
  | [] | ['Z'] | ['z'] => true
  | [sign, h₁, h₂, ':', m₁, m₂] =>
    (sign == '+' || sign == '-') && (twoDigits? 0 23 h₁ h₂).isSome &&
      (twoDigits? 0 59 m₁ m₂).isSome
  | _ => false

/-- Whether a text is a date, a time of day or both. -/
def isMoment (text : List Char) : Bool :=
  match afterDate? text with
  | some [] => true
  | some (separator :: rest) =>
    (separator == 'T' || separator == 't' || separator == ' ') && (afterTime? rest).any isOffset
  | none => afterTime? text == some []

end Unquoted

namespace Value

/-- An integer, if it fits 128 bits. -/
def ofInt (n : Int) : Value :=
  if -0x80000000000000000000000000000000 ≤ n ∧ n < 0x100000000000000000000000000000000 then
    .integer n
  else .invalidNumber

/-- An integer from its digits, if they are digits. -/
def ofDigits (base : Nat) (sign : Option Char) (text : List Char) : Value :=
  match Unquoted.digits? base text with
  | some digits => ofInt (Unquoted.signed sign (Unquoted.ofDigits base digits))
  | none => .invalidNumber

/-- A floating-point number from its decimal form, if it is not beyond the largest. -/
def ofDecimal (sign : Option Char) (significand : Nat) (exponent : Int) : Value :=
  match Binary64.nearest? significand exponent with
  | some x => .float (if sign = some '-' then -x else x)
  | none => .invalidNumber

/-- Reads an integer in another base than ten, after the two characters that name the base. The
digits may be missing. -/
def ofBase? (base : Nat) (text : List Char) : Option Value :=
  let digits := Unquoted.dropUnderscores text
  if Unquoted.underscoresFit base false text && digits.all (Unquoted.isDigitIn base) then
    some (ofDigits base none digits)
  else none

/-- Reads a moment or a number in decimal. What the first digits are followed by tells them apart:

* by a hyphen or a colon, they begin a moment;
* by something with a point or an exponent in it, a floating-point number;
* by nothing, an integer;
* by an underscore, an integer that may turn out to be none, also because of other characters.

Underscores of an integer may stand between hexadecimal digits, and one may follow a sign. -/
def ofDecimalChars? (text : List Char) : Option Value :=
  let (sign, unsigned) := Unquoted.splitSign text
  let rest := unsigned.dropWhile Char.isDigit
  let plain := Unquoted.dropUnderscores unsigned
  if rest.head? = some '-' ∨ rest.head? = some ':' then
    if Unquoted.isMoment text then some (.moment text) else none
  else if rest.contains ' ' || Unquoted.hasNeedlessZero unsigned then none
  else if rest.any fun c => c == '.' || c == 'e' || c == 'E' then
    if Unquoted.underscoresFit 10 sign.isSome unsigned then
      (Unquoted.decimal? plain).map fun (significand, exponent) =>
        ofDecimal sign significand exponent
    else none
  else if (rest.isEmpty && !unsigned.isEmpty) || rest.head? = some '_' then
    if Unquoted.underscoresFit 16 sign.isSome unsigned then some (ofDigits 10 sign plain) else none
  else none

/-- The value of an unquoted scalar. -/
def ofChars? (text : List Char) : Option Value :=
  match Unquoted.splitSign text with
  | (none, ['t', 'r', 'u', 'e']) => some (.boolean true)
  | (none, ['f', 'a', 'l', 's', 'e']) => some (.boolean false)
  | (sign, ['i', 'n', 'f']) => some (.float (if sign = some '-' then -(1 / 0) else 1 / 0))
  | (_, ['n', 'a', 'n']) => some (.float undefined)
  | (none, '0' :: 'x' :: written) => ofBase? 16 written
  | (none, '0' :: 'o' :: written) => ofBase? 8 written
  | (none, '0' :: 'b' :: written) => ofBase? 2 written
  | _ => ofDecimalChars? text

end Value

end LinkQuality.Toml
