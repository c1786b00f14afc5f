/-!
# Octets in hexadecimal

A number below 256 written with hexadecimal digits of either case. A plus sign may come first and
zeros may lead, so an octet has many spellings; `Octet.text` is the one the program writes.

Digits are read from the left, and the first fault found is the one reported: a character that is
no digit, or a value that has outgrown the octet.
-/

namespace LinkQuality.Text.Octet

/-- Why a text is no octet. -/
inductive Fault where
  | empty
  | invalidDigit
  | tooLarge
  deriving DecidableEq, Repr

/-- The text of a fault in messages. -/
def Fault.message : Fault → String
  | .empty => "cannot parse integer from empty string"
  | .invalidDigit => "invalid digit found in string"
  | .tooLarge => "number too large to fit in target type"

/-- The value of a hexadecimal digit. -/
def digit? (c : Char) : Option Nat :=
  if '0' ≤ c ∧ c ≤ '9' then some (c.toNat - '0'.toNat)
  else if 'a' ≤ c ∧ c ≤ 'f' then some (c.toNat - 'a'.toNat + 10)
  else if 'A' ≤ c ∧ c ≤ 'F' then some (c.toNat - 'A'.toNat + 10)
  else none

/-- Appends one digit to a value read so far. -/
def extend (value : Nat) (c : Char) : Except Fault Nat :=
  match digit? c with
  | none => .error .invalidDigit
  | some digit =>
    if value * 16 + digit < 256 then .ok (value * 16 + digit) else .error .tooLarge

/-- The digits of a text, without a plus sign in front of them. A sign that stands alone is left
where it is, to be refused as a digit. -/
def digitsOf : List Char → List Char
  | '+' :: c :: rest => c :: rest
  | text => text

/-- Reads an octet. -/
def read (text : List Char) : Except Fault (Fin 256) :=
  if text.isEmpty then .error .empty
  else do
    let value ← (digitsOf text).foldlM extend 0
    if h : value < 256 then .ok ⟨value, h⟩ else .error .tooLarge

/-- Writes a digit in lower case. -/
def digitChar (value : Nat) : Char :=
  if value < 10 then Char.ofNat ('0'.toNat + value) else Char.ofNat ('a'.toNat + (value - 10))

/-- Two digits in lower case. -/
def text (octet : Fin 256) : List Char :=
  [digitChar (octet.val / 16), digitChar (octet.val % 16)]

end LinkQuality.Text.Octet
