import LinkQuality.Json.Value

/-!
# Writing JSON

A document is written on one line, without blanks, its members in the order they are listed. A
number is written the way it is kept.
-/

namespace LinkQuality.Json

/-- Writes the digits after the point of a number, and the point if there are any. -/
def fractionChars (fraction : List Nat) : List Char :=
  if fraction.isEmpty then [] else '.' :: fraction.flatMap (Nat.toDigits 10)

/-- Writes the exponent of a number, if it has one. -/
def exponentChars : Option Int → List Char
  | none => []
  | some e => 'e' :: (if e < 0 then ['-'] else []) ++ Nat.toDigits 10 e.natAbs

/-- Writes a number. -/
def numeralChars (n : Numeral) : List Char :=
  (if n.negative then ['-'] else []) ++ Nat.toDigits 10 n.whole ++ fractionChars n.fraction ++
    exponentChars n.exponent

/-- Four hexadecimal digits. -/
def unitChars (unit : Nat) : List Char :=
  [unit / 4096 % 16, unit / 256 % 16, unit / 16 % 16, unit % 16].map Nat.digitChar

/-- Writes one character of a string: quotes, backslashes and control characters as escapes. -/
def charChars (c : Char) : List Char :=
  if c = '"' then ['\\', '"']
  else if c = '\\' then ['\\', '\\']
  else if c = '\x08' then ['\\', 'b']
  else if c = '\x0c' then ['\\', 'f']
  else if c = '\n' then ['\\', 'n']
  else if c = '\r' then ['\\', 'r']
  else if c = '\t' then ['\\', 't']
  else if c.toNat < 0x20 then '\\' :: 'u' :: unitChars c.toNat
  else [c]

/-- Writes a string. One that holds half of a surrogate pair is written as an empty string. -/
def stringChars (text : Option String) : List Char :=
  '"' :: (text.getD "").toList.flatMap charChars ++ ['"']

/-- Separates what is written with commas. -/
def commaSeparated (parts : List (List Char)) : List Char := [','].intercalate parts

mutual

/-- Writes a document. -/
def chars : Json → List Char
  | .null => ['n', 'u', 'l', 'l']
  | .bool true => ['t', 'r', 'u', 'e']
  | .bool false => ['f', 'a', 'l', 's', 'e']
  | .number value => numeralChars value
  | .string text => stringChars text
  | .array items => '[' :: commaSeparated (itemsChars items) ++ [']']
  | .object members => '{' :: commaSeparated (membersChars members) ++ ['}']

/-- Writes the items of an array. -/
def itemsChars : List Json → List (List Char)
  | [] => []
  | item :: rest => chars item :: itemsChars rest

/-- Writes the members of an object. -/
def membersChars : List (Option String × Json) → List (List Char)
  | [] => []
  | (key, value) :: rest => (stringChars key ++ ':' :: chars value) :: membersChars rest

end

/-- Writes a document as text. -/
def print (document : Json) : String := String.ofList document.chars

end LinkQuality.Json
