import LinkQuality.Json.Token

/-!
# Reading JSON

Words are read from left to right. Arrays and objects that have begun and not ended are kept in a
list, innermost first, with what has been read of each; a value that ends goes into the innermost
of them. There may be any number of them: the records that are read from documents are flat, and
what a record passes over may be as deep as it likes.

## Main definitions

* `Reader.Frame`: an array or object that has begun
* `Reader`, `Reader.step`: what has been read, and what one word does to it
* `Json.read?`: the document a text holds
-/

namespace LinkQuality.Json

/-- An array or an object of which a part has been read, last first. -/
inductive Reader.Frame where
  | array (reversed : List Json)
  | object (reversed : List (Option String × Json)) (key : Option String)

/-- What may come next. -/
inductive Reader.Next where
  /-- A value. -/
  | value
  /-- A value, or the end of an array that is still empty. -/
  | valueOrEnd
  /-- A key. -/
  | key (reversed : List (Option String × Json))
  /-- A key, or the end of an object that is still empty. -/
  | keyOrEnd
  /-- The colon after a key. -/
  | colon (reversed : List (Option String × Json)) (key : Option String)
  /-- A comma or the end of the innermost array or object. -/
  | separator
  /-- Nothing: the document is complete. -/
  | nothing (document : Json)

/-- A document that is being read: the arrays and objects that have begun, innermost first, and
what may come next. -/
structure Reader where
  frames : List Reader.Frame
  next : Reader.Next

namespace Reader

/-- Puts a complete value where it belongs. -/
def complete (value : Json) : List Frame → Reader
  | [] => ⟨[], .nothing value⟩
  | .array reversed :: outer => ⟨.array (value :: reversed) :: outer, .separator⟩
  | .object reversed key :: outer => ⟨.object ((key, value) :: reversed) key :: outer, .separator⟩

/-- Begins a value. -/
def beginValue (frames : List Frame) : Token → Option Reader
  | .null => some (complete .null frames)
  | .bool value => some (complete (.bool value) frames)
  | .number value => some (complete (.number value) frames)
  | .string text => some (complete (.string text) frames)
  | .openBracket => some ⟨.array [] :: frames, .valueOrEnd⟩
  | .openBrace => some ⟨frames, .keyOrEnd⟩
  | _ => none

/-- Reads one word. -/
def step (reader : Reader) (token : Token) : Option Reader :=
  match reader.next, token with
  -- An array or an object may end before its first entry, but not after a comma.
  | .valueOrEnd, .closeBracket =>
    match reader.frames with
    | .array reversed :: outer => some (complete (.array reversed.reverse) outer)
    | _ => none
  | .value, token | .valueOrEnd, token => beginValue reader.frames token
  | .keyOrEnd, .closeBrace => some (complete (.object []) reader.frames)
  | .keyOrEnd, .string key => some ⟨reader.frames, .colon [] key⟩
  | .key reversed, .string key => some ⟨reader.frames, .colon reversed key⟩
  | .colon reversed key, .colon => some ⟨.object reversed key :: reader.frames, .value⟩
  | .separator, .comma =>
    match reader.frames with
    | .array _ :: _ => some ⟨reader.frames, .value⟩
    | .object reversed _ :: outer => some ⟨outer, .key reversed⟩
    | [] => none
  | .separator, .closeBracket =>
    match reader.frames with
    | .array reversed :: outer => some (complete (.array reversed.reverse) outer)
    | _ => none
  | .separator, .closeBrace =>
    match reader.frames with
    | .object reversed _ :: outer => some (complete (.object reversed.reverse) outer)
    | _ => none
  | _, _ => none

/-- The document, once all of it has been read. -/
def document? (reader : Reader) : Option Json :=
  match reader.next with
  | .nothing document => some document
  | _ => none

end Reader

/-- The document that characters hold. -/
def readChars? (text : List Char) : Option Json := do
  let tokens ← Token.ofText? text
  let reader ← tokens.foldlM Reader.step ⟨[], .value⟩
  reader.document?

/-- The document that a text holds. -/
def read? (text : String) : Option Json := readChars? text.toList

end LinkQuality.Json
