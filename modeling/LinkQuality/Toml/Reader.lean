import LinkQuality.Toml.Table
import LinkQuality.Toml.Token

/-!
# Reading TOML

Words are read from left to right and gathered until they make a statement, at the end of a line,
or a value in brackets or braces. Brackets that have begun and not ended are kept in a list,
innermost first, with what stands in each; when one ends, what stands in it becomes one value. The
first bracket on a line begins a header instead.

## Main definitions

* `Part`: a word, or a value that was written in brackets
* `nestingLimit`: how deep values may stand inside each other
* `Reader`, `Reader.step`: what has been read, and what one word does to it
* `read?`: the entries of the document a text holds
-/

namespace LinkQuality.Toml

/-- The number of arrays and tables in braces that may stand inside each other, and of keys in a
dotted key. -/
def nestingLimit : Nat := 80

/-- Something that stands in a statement: a word, a value written in brackets, or a header. -/
inductive Part where
  | plain (token : Token)
  | bracketed (value : Value)
  | header (repeated : Bool) (keys : Path)

namespace Part

/-- Whether the part is a space, a tab or the end of a line. -/
def isBlank : Part → Bool
  | .plain (.blank _) | .plain .lineEnd => true
  | _ => false

/-- The parts without blanks at either end. -/
def trim (parts : List Part) : List Part :=
  ((parts.dropWhile isBlank).reverse.dropWhile isBlank).reverse

/-- Whether a character may stand in a key without quotes. -/
def inKey (c : Char) : Bool := c.isAlphanum || c == '_' || c == '-'

/-- The key that a part stands for. -/
def key? : Part → Option (List Char)
  | .plain (.bare word) => if word.all inKey then some word else none
  | .plain (.quoted text true) => some text
  | _ => none

/-- The keys of a dotted key without its blanks. -/
def keysOf? : List Part → Option Path
  | [] => none
  | [part] => part.key?.map ([·])
  | part :: .plain .dot :: rest => do
    let key ← part.key?
    let keys ← keysOf? rest
    some (key :: keys)
  | _ => none

/-- The keys of a dotted key, of which there may be no more than the nesting limit. Blanks may stand
around its dots, but no end of a line. -/
def dottedKey? (parts : List Part) : Option Path := do
  let keys ← keysOf? (parts.filter fun part => match part with
    | .plain (.blank _) => false
    | _ => true)
  if keys.length ≤ nestingLimit then some keys else none

/-- The characters of a part of an unquoted scalar. -/
def chars? : Part → Option (List Char)
  | .plain (.bare word) => some word
  | .plain .dot => some ['.']
  | .plain (.blank c) => some [c]
  | _ => none

/-- The value that parts stand for. -/
def value? (parts : List Part) : Option Value :=
  match trim parts with
  | [.bracketed value] => some value
  | [.plain (.quoted text _)] => some (.text text)
  | parts => do
    let words ← parts.mapM chars?
    Value.ofChars? words.flatten

/-- Cuts parts at every comma. -/
def cutAtCommas : List Part → List (List Part)
  | [] => [[]]
  | .plain .comma :: rest => [] :: cutAtCommas rest
  | part :: rest =>
    match cutAtCommas rest with
    | [] => [[part]]
    | first :: others => (part :: first) :: others

/-- The items between brackets or braces, separated by commas. A comma may follow the last item. -/
def itemsOf (parts : List Part) : List (List Part) :=
  let items := cutAtCommas parts
  match items.getLast? with
  | some last => if (trim last).isEmpty then items.dropLast else items
  | none => items

/-- The array with the given parts between its brackets. -/
def array? (parts : List Part) : Option Value := ((itemsOf parts).mapM value?).map .array

/-- Splits off what stands before the first equals sign. -/
def splitAtEquals? : List Part → Option (List Part × List Part)
  | [] => none
  | .plain .equals :: rest => some ([], rest)
  | part :: rest => (splitAtEquals? rest).map fun (before, after) => (part :: before, after)

/-- Writes an entry into a table. In braces, lines may end around the key and around the value. -/
def addEntry (origin : Origin) (entries : Entries) (parts : List Part) : Option Entries := do
  let (before, after) ← splitAtEquals? parts
  let keys ← dottedKey? (trim before)
  let value ← value? after
  let key ← keys.getLast?
  entries.addKey origin keys.dropLast key value

/-- The table with the given parts between its braces. -/
def inlineTable? (parts : List Part) : Option Value :=
  ((itemsOf parts).foldlM (addEntry .inline) []).map (.table .inline)

end Part

/-- A bracket that has begun, with what stands in it, last first. -/
inductive Reader.Frame where
  | array (reversed : List Part)
  | inline (reversed : List Part)
  | header (repeated : Bool) (reversed : List Part)
  /-- The second closing bracket of a header in double brackets. -/
  | headerEnd (keys : Path)

/-- A document that is being read. -/
structure Reader where
  /-- What has been read of the document. -/
  document : Entries
  /-- The keys of the header that the current line stands under. -/
  current : Path
  /-- What stands on the current line, last first. -/
  line : List Part
  /-- The brackets that have begun, innermost first. -/
  frames : List Reader.Frame

namespace Reader

/-- Adds a part to the innermost bracket, or to the line. -/
def push (reader : Reader) (part : Part) : Reader :=
  match reader.frames with
  | .array reversed :: outer => { reader with frames := .array (part :: reversed) :: outer }
  | .inline reversed :: outer => { reader with frames := .inline (part :: reversed) :: outer }
  | .header repeated reversed :: outer =>
    { reader with frames := .header repeated (part :: reversed) :: outer }
  | _ => { reader with line := part :: reader.line }

/-- Begins a bracket, unless too many have begun. -/
def enter? (reader : Reader) (frame : Frame) : Option Reader :=
  if reader.frames.length < nestingLimit then some { reader with frames := frame :: reader.frames }
  else none

/-- Ends the line: its statement takes effect. -/
def endLine (reader : Reader) : Option Reader :=
  let rest : Reader := { reader with line := [] }
  match Part.trim reader.line.reverse with
  | [] => some rest
  | [.header repeated keys] => do
    -- The last key names the table, those before it lead there.
    let key ← keys.getLast?
    let document ←
      if repeated then reader.document.addToList keys.dropLast key
      else reader.document.addHeader keys.dropLast key
    some { rest with document, current := keys }
  | parts => do
    let document ← reader.document.alterAt false
      (fun origin entries => Part.addEntry origin entries parts) reader.current .headed
    some { rest with document }

/-- Reads one word inside a header. -/
def stepHeader (reader : Reader) (repeated : Bool) (reversed : List Part) (outer : List Frame)
    (token : Token) : Option Reader :=
  match token with
  | .openBracket =>
    if !repeated ∧ reversed.isEmpty then some { reader with frames := .header true [] :: outer }
    else none
  | .closeBracket => do
    let keys ← Part.dottedKey? reversed.reverse
    if repeated then some { reader with frames := .headerEnd keys :: outer }
    else some (({ reader with frames := outer } : Reader).push (.header false keys))
  | token => some (reader.push (.plain token))

/-- Reads one word. -/
def step (reader : Reader) (token : Token) : Option Reader :=
  match reader.frames, token with
  | .header repeated reversed :: outer, token => reader.stepHeader repeated reversed outer token
  | .headerEnd keys :: outer, .closeBracket =>
    some (({ reader with frames := outer } : Reader).push (.header true keys))
  | .headerEnd _ :: _, _ => none
  | [], .lineEnd => reader.endLine
  | frames, .openBracket =>
    -- At the beginning of a line a bracket opens a header, and elsewhere an array.
    if frames.isEmpty ∧ (Part.trim reader.line).isEmpty then reader.enter? (.header false [])
    else reader.enter? (.array [])
  | _, .openBrace => reader.enter? (.inline [])
  | .array reversed :: outer, .closeBracket => do
    let value ← Part.array? reversed.reverse
    some (({ reader with frames := outer } : Reader).push (.bracketed value))
  | .inline reversed :: outer, .closeBrace => do
    let value ← Part.inlineTable? reversed.reverse
    some (({ reader with frames := outer } : Reader).push (.bracketed value))
  | _, .closeBracket | _, .closeBrace => none
  | _, token => some (reader.push (.plain token))

end Reader

/-- The entries of the document that characters hold. -/
def readChars? (text : List Char) : Option Entries := do
  let tokens ← Token.ofText? text
  let reader ← tokens.foldlM Reader.step ⟨[], [], [], []⟩
  if reader.frames.isEmpty then (reader.endLine).map Reader.document else none

/-- The entries of the document that a text holds. -/
def read? (text : String) : Option Entries := readChars? text.toList

end LinkQuality.Toml
