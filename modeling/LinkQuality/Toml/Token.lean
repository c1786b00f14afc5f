/-!
# The words of a TOML text

A TOML text is a sequence of lines made of bare words, quoted texts and punctuation. A bare word may
hold any other characters; what it stands for is decided where it stands. Blanks are kept as words,
because some things must stand side by side: the two brackets of a table header, the parts of a
number around its point, the date and the time of a moment. Comments are dropped.

The text is scanned one character at a time. Quoted texts come in four forms: with double or single
quotes, on one line or, with three quotes, over several lines; escapes have a meaning between double
quotes only.

## Main definitions

* `Token`: a word of the text
* `Token.Scan`, `Token.Scan.step`: the scan and what one character does to it
* `Token.ofText?`: the words of a text
-/

namespace LinkQuality.Toml

/-- A word of a TOML text. -/
inductive Token where
  /-- A space or a tab. -/
  | blank (c : Char)
  | lineEnd
  | equals
  | dot
  | comma
  | openBracket
  | closeBracket
  | openBrace
  | closeBrace
  | bare (word : List Char)
  | quoted (text : List Char) (onOneLine : Bool)
  deriving DecidableEq, Repr

namespace Token

/-- How a text is quoted. -/
structure Quotation where
  quote : Char
  onOneLine : Bool

/-- Whether a backslash begins an escape. -/
def Quotation.hasEscapes (q : Quotation) : Bool := q.quote == '"'

/-- What the scan is in the middle of. Texts are held last character first. -/
inductive Mode where
  | between
  | bare (reversed : List Char)
  | comment
  /-- After a carriage return that must be followed by a line feed. -/
  | lineFeed
  /-- After one or two opening quotes. -/
  | opening (quote : Char) (twice : Bool)
  /-- Before the first character of a text over several lines. -/
  | firstOfBlock (q : Quotation)
  | text (q : Quotation) (reversed : List Char)
  /-- After quotes in a text over several lines that may or may not end it. -/
  | closing (q : Quotation) (reversed : List Char) (quotes : Nat)
  /-- After a carriage return in a text over several lines, which is part of the text or not. -/
  | lineFeedInText (q : Quotation) (reversed : List Char) (kept : Bool)
  | escape (q : Quotation) (reversed : List Char)
  | codePoint (q : Quotation) (reversed : List Char) (value : Nat) (digitsLeft : Nat)
  /-- After a backslash at the end of a line: blanks and line ends are skipped. -/
  | continuation (q : Quotation) (reversed : List Char) (lineEnded : Bool)
  /-- After a carriage return among skipped blanks, which must be followed by a line feed. -/
  | lineFeedInContinuation (q : Quotation) (reversed : List Char)

/-- A scan: the words read so far, last first, and what comes next. -/
structure Scan where
  reversed : List Token
  mode : Mode

/-- Whether a character ends a bare word. -/
def endsBare (c : Char) : Bool :=
  c ∈ ['.', '=', ',', '[', ']', '{', '}', '#', ' ', '\t', '\r', '\n']

/-- Whether a character may stand in a comment or in a text. -/
def isPlain (c : Char) : Bool := c == '\t' || (decide (0x20 ≤ c.toNat) && c.toNat != 0x7F)

/-- The character that a one-letter escape stands for. -/
def escaped? : Char → Option Char
  | 'b' => some '\x08'
  | 'e' => some '\x1b'
  | 't' => some '\t'
  | 'n' => some '\n'
  | 'f' => some '\x0c'
  | 'r' => some '\r'
  | '"' => some '"'
  | '\\' => some '\\'
  | _ => none

/-- The value of a hexadecimal digit. -/
def hexDigit? (c : Char) : Option Nat :=
  if c.isDigit then some (c.toNat - '0'.toNat)
  else if 'a' ≤ c ∧ c ≤ 'f' then some (c.toNat - 'a'.toNat + 10)
  else if 'A' ≤ c ∧ c ≤ 'F' then some (c.toNat - 'A'.toNat + 10)
  else none

namespace Scan

/-- What a character does between two words. -/
def start (words : List Token) (c : Char) : Option Scan :=
  match c with
  | '\n' => some ⟨.lineEnd :: words, .between⟩
  | '\r' => some ⟨words, .lineFeed⟩
  | ' ' | '\t' => some ⟨.blank c :: words, .between⟩
  | '#' => some ⟨words, .comment⟩
  | '=' => some ⟨.equals :: words, .between⟩
  | '.' => some ⟨.dot :: words, .between⟩
  | ',' => some ⟨.comma :: words, .between⟩
  | '[' => some ⟨.openBracket :: words, .between⟩
  | ']' => some ⟨.closeBracket :: words, .between⟩
  | '{' => some ⟨.openBrace :: words, .between⟩
  | '}' => some ⟨.closeBrace :: words, .between⟩
  | '"' | '\'' => some ⟨words, .opening c false⟩
  | _ => some ⟨words, .bare [c]⟩

/-- A text that has ended. -/
def endText (words : List Token) (q : Quotation) (reversed : List Char) : List Token :=
  .quoted reversed.reverse q.onOneLine :: words

/-- What a character does inside a text. -/
def inText (words : List Token) (q : Quotation) (reversed : List Char) (c : Char) : Option Scan :=
  if c = q.quote then
    if q.onOneLine then some ⟨endText words q reversed, .between⟩
    else some ⟨words, .closing q reversed 1⟩
  else if c = '\\' ∧ q.hasEscapes then some ⟨words, .escape q reversed⟩
  else if c = '\n' ∧ !q.onOneLine then some ⟨words, .text q (c :: reversed)⟩
  else if c = '\r' ∧ !q.onOneLine then some ⟨words, .lineFeedInText q reversed true⟩
  else if isPlain c then some ⟨words, .text q (c :: reversed)⟩
  else none

/-- Reads one character. -/
def step (scan : Scan) (c : Char) : Option Scan :=
  let words := scan.reversed
  match scan.mode with
  | .between => start words c
  | .bare reversed =>
    if endsBare c then start (.bare reversed.reverse :: words) c
    else some ⟨words, .bare (c :: reversed)⟩
  | .comment =>
    if c = '\n' then some ⟨.lineEnd :: words, .between⟩
    else if c = '\r' then some ⟨words, .lineFeed⟩
    else if isPlain c then some ⟨words, .comment⟩
    else none
  | .lineFeed => if c = '\n' then some ⟨.lineEnd :: words, .between⟩ else none
  | .opening quote false =>
    if c = quote then some ⟨words, .opening quote true⟩ else inText words ⟨quote, true⟩ [] c
  | .opening quote true =>
    if c = quote then some ⟨words, .firstOfBlock ⟨quote, false⟩⟩
    else start (.quoted [] true :: words) c
  | .firstOfBlock q =>
    if c = '\n' then some ⟨words, .text q []⟩
    else if c = '\r' then some ⟨words, .lineFeedInText q [] false⟩
    else inText words q [] c
  | .text q reversed => inText words q reversed c
  | .closing q reversed quotes =>
    -- A block may end with up to two quotes of its own before the three that close it.
    if c = q.quote then
      if quotes = 4 then
        some ⟨endText words q (q.quote :: q.quote :: reversed), .between⟩
      else some ⟨words, .closing q reversed (quotes + 1)⟩
    else if quotes < 3 then inText words q (List.replicate quotes q.quote ++ reversed) c
    else start (endText words q (List.replicate (quotes - 3) q.quote ++ reversed)) c
  | .lineFeedInText q reversed kept =>
    if c ≠ '\n' then none
    else some ⟨words, .text q (if kept then '\n' :: reversed else reversed)⟩
  | .escape q reversed =>
    if c = 'x' then some ⟨words, .codePoint q reversed 0 2⟩
    else if c = 'u' then some ⟨words, .codePoint q reversed 0 4⟩
    else if c = 'U' then some ⟨words, .codePoint q reversed 0 8⟩
    else if (c = ' ' ∨ c = '\t') ∧ !q.onOneLine then some ⟨words, .continuation q reversed false⟩
    else if c = '\n' ∧ !q.onOneLine then some ⟨words, .continuation q reversed true⟩
    else if c = '\r' ∧ !q.onOneLine then some ⟨words, .lineFeedInContinuation q reversed⟩
    else (escaped? c).map fun meant => ⟨words, .text q (meant :: reversed)⟩
  | .codePoint q reversed value digitsLeft => do
    let digit ← hexDigit? c
    let value := value * 16 + digit
    if 1 < digitsLeft then some ⟨words, .codePoint q reversed value (digitsLeft - 1)⟩
    else if value.isValidChar then some ⟨words, .text q (Char.ofNat value :: reversed)⟩
    else none
  | .continuation q reversed lineEnded =>
    if c = ' ' ∨ c = '\t' then some ⟨words, .continuation q reversed lineEnded⟩
    else if c = '\n' then some ⟨words, .continuation q reversed true⟩
    else if c = '\r' then some ⟨words, .lineFeedInContinuation q reversed⟩
    else if lineEnded then inText words q reversed c
    else none
  | .lineFeedInContinuation q reversed =>
    if c = '\n' then some ⟨words, .continuation q reversed true⟩ else none

/-- The words of a scan that has read the whole text. -/
def finish (scan : Scan) : Option (List Token) :=
  match scan.mode with
  | .between | .comment => some scan.reversed.reverse
  | .bare reversed => some (.bare reversed.reverse :: scan.reversed).reverse
  | .opening _ true => some (.quoted [] true :: scan.reversed).reverse
  | .closing q reversed quotes =>
    if quotes < 3 then none
    else some (endText scan.reversed q (List.replicate (quotes - 3) q.quote ++ reversed)).reverse
  | _ => none

end Scan

/-- The words of a text, unless a quoted text in it is malformed or has no end, or a comment or the
end of a line is malformed. A byte-order mark at the start is skipped. -/
def ofText? (text : List Char) : Option (List Token) := do
  let text := match text with
    | '\uFEFF' :: rest => rest
    | text => text
  let scan ← text.foldlM Scan.step ⟨[], .between⟩
  scan.finish

end Token

end LinkQuality.Toml
