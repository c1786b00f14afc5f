import LinkQuality.Json.Value

/-!
# The words of a JSON text

A JSON text is a sequence of marks, strings, numbers and the three words `true`, `false` and
`null`, with white space between them. The text is scanned one character at a time. Letters, digits
and signs are gathered until another character comes, and are then read as a number or a word; two
of these never stand side by side in JSON, so gathering too many of them hides no valid text.

## Main definitions

* `Token`: a word of the text
* `Token.Scan`, `Token.Scan.step`: the scan and what one character does to it
* `Token.ofText?`: the words of a text
-/

namespace LinkQuality.Json

/-- A word of a JSON text. -/
inductive Token where
  | openBracket
  | closeBracket
  | openBrace
  | closeBrace
  | colon
  | comma
  | null
  | bool (value : Bool)
  | number (value : Numeral)
  | string (text : Option String)
  deriving DecidableEq, Repr

namespace Token

/-- The value of a decimal digit. -/
def digit? (c : Char) : Option Nat :=
  if c.isDigit then some (c.toNat - '0'.toNat) else none

/-- Splits off the digits a text begins with. -/
def splitDigits (text : List Char) : List Nat × List Char :=
  ((text.takeWhile Char.isDigit).filterMap digit?, text.dropWhile Char.isDigit)

/-- The number that digits write. -/
def ofDigits (digits : List Nat) : Nat := digits.foldl (fun value digit => value * 10 + digit) 0

/-- Reads the exponent of a number, which must be all that is left. -/
def exponent? : List Char → Option (Option Int)
  | [] => some none
  | mark :: rest =>
    if mark ≠ 'e' ∧ mark ≠ 'E' then none
    else
      let (negative, digits) := match rest with
        | '-' :: digits => (true, digits)
        | '+' :: digits => (false, digits)
        | digits => (false, digits)
      match splitDigits digits with
      | (digit :: more, []) =>
        let value : Int := ofDigits (digit :: more)
        some (some (if negative then -value else value))
      | _ => none

/-- Reads a number that starts at its first digit. -/
def unsigned? (negative : Bool) (text : List Char) : Option Numeral :=
  match splitDigits text with
  | ([], _) => none
  | (0 :: _ :: _, _) => none
  | (digits, '.' :: rest) =>
    match splitDigits rest with
    | ([], _) => none
    | (fraction, rest) => (exponent? rest).map fun e => ⟨negative, ofDigits digits, fraction, e⟩
  | (digits, rest) => (exponent? rest).map fun e => ⟨negative, ofDigits digits, [], e⟩

/-- Reads a number. -/
def numeral? : List Char → Option Numeral
  | '-' :: rest => unsigned? true rest
  | text => unsigned? false text

/-- Reads what has been gathered as a word or a number. -/
def ofLexeme? (lexeme : List Char) : Option Token :=
  if lexeme = ['n', 'u', 'l', 'l'] then some .null
  else if lexeme = ['t', 'r', 'u', 'e'] then some (.bool true)
  else if lexeme = ['f', 'a', 'l', 's', 'e'] then some (.bool false)
  else (numeral? lexeme).map .number

/-- A string that is being read. -/
structure Draft where
  /-- The characters read so far, last first. -/
  reversed : List Char
  /-- The first half of a surrogate pair that waits for the second. -/
  half : Option Nat
  /-- Whether every half has found its partner. -/
  paired : Bool

namespace Draft

/-- A string of which nothing has been read. -/
def empty : Draft := ⟨[], none, true⟩

/-- Appends a character. -/
def push (draft : Draft) (c : Char) : Draft :=
  ⟨c :: draft.reversed, none, draft.paired && draft.half.isNone⟩

/-- Appends a code unit given by an escape. -/
def pushUnit (draft : Draft) (unit : Nat) : Draft :=
  match draft.half with
  | some high =>
    if 0xDC00 ≤ unit ∧ unit < 0xE000 then
      let point := 0x10000 + (high - 0xD800) * 0x400 + (unit - 0xDC00)
      ⟨Char.ofNat point :: draft.reversed, none, draft.paired⟩
    else ⟨draft.reversed, none, false⟩
  | none =>
    if 0xD800 ≤ unit ∧ unit < 0xDC00 then ⟨draft.reversed, some unit, draft.paired⟩
    else if 0xDC00 ≤ unit ∧ unit < 0xE000 then ⟨draft.reversed, none, false⟩
    else draft.push (Char.ofNat unit)

/-- The text of the string, if it is one. -/
def text? (draft : Draft) : Option String :=
  if draft.paired && draft.half.isNone then some (String.ofList draft.reversed.reverse) else none

end Draft

/-- What the scan is in the middle of. -/
inductive Mode where
  | between
  | lexeme (reversed : List Char)
  | string (draft : Draft)
  | escape (draft : Draft)
  | unit (draft : Draft) (value : Nat) (digitsLeft : Nat)

/-- A scan: the words read so far, last first, and what comes next. -/
structure Scan where
  reversed : List Token
  mode : Mode

/-- Whether a character can be part of a number or a word. -/
def inLexeme (c : Char) : Bool := c.isAlphanum || c == '-' || c == '+' || c == '.'

/-- The character that a one-letter escape stands for. -/
def escaped? : Char → Option Char
  | '"' => some '"'
  | '\\' => some '\\'
  | '/' => some '/'
  | 'b' => some '\x08'
  | 'f' => some '\x0c'
  | 'n' => some '\n'
  | 'r' => some '\r'
  | 't' => some '\t'
  | _ => none

/-- The value of a hexadecimal digit. -/
def hexDigit? (c : Char) : Option Nat :=
  if c.isDigit then some (c.toNat - '0'.toNat)
  else if 'a' ≤ c ∧ c ≤ 'f' then some (c.toNat - 'a'.toNat + 10)
  else if 'A' ≤ c ∧ c ≤ 'F' then some (c.toNat - 'A'.toNat + 10)
  else none

namespace Scan

/-- What a character does between two words. -/
def start (words : List Token) (c : Char) : Option Scan :=
  match c with
  | '[' => some ⟨.openBracket :: words, .between⟩
  | ']' => some ⟨.closeBracket :: words, .between⟩
  | '{' => some ⟨.openBrace :: words, .between⟩
  | '}' => some ⟨.closeBrace :: words, .between⟩
  | ':' => some ⟨.colon :: words, .between⟩
  | ',' => some ⟨.comma :: words, .between⟩
  | '"' => some ⟨words, .string .empty⟩
  | _ =>
    if c = ' ' ∨ c = '\t' ∨ c = '\n' ∨ c = '\r' then some ⟨words, .between⟩
    else if inLexeme c then some ⟨words, .lexeme [c]⟩
    else none

/-- Reads one character. -/
def step (scan : Scan) (c : Char) : Option Scan :=
  match scan.mode with
  | .between => start scan.reversed c
  | .lexeme reversed =>
    if inLexeme c then some ⟨scan.reversed, .lexeme (c :: reversed)⟩
    else do
      -- The character after a number or a word may begin or be a word of its own.
      let token ← ofLexeme? reversed.reverse
      start (token :: scan.reversed) c
  | .string draft =>
    if c = '"' then some ⟨.string draft.text? :: scan.reversed, .between⟩
    else if c = '\\' then some ⟨scan.reversed, .escape draft⟩
    else if c.toNat < 0x20 then none
    else some ⟨scan.reversed, .string (draft.push c)⟩
  | .escape draft =>
    if c = 'u' then some ⟨scan.reversed, .unit draft 0 4⟩
    else do
      let meant ← escaped? c
      some ⟨scan.reversed, .string (draft.push meant)⟩
  | .unit draft value digitsLeft => do
    let digit ← hexDigit? c
    let value := value * 16 + digit
    if digitsLeft ≤ 1 then some ⟨scan.reversed, .string (draft.pushUnit value)⟩
    else some ⟨scan.reversed, .unit draft value (digitsLeft - 1)⟩

/-- The words of a scan that has read the whole text. -/
def finish (scan : Scan) : Option (List Token) :=
  match scan.mode with
  | .between => some scan.reversed.reverse
  | .lexeme reversed => do
    let token ← ofLexeme? reversed.reverse
    some (token :: scan.reversed).reverse
  | _ => none

end Scan

/-- The words of a text, unless it holds something that is no word. -/
def ofText? (text : List Char) : Option (List Token) := do
  let scan ← text.foldlM Scan.step ⟨[], .between⟩
  scan.finish

end Token

end LinkQuality.Json
