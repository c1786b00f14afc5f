/-!
# Blank characters

The characters with the Unicode property White_Space, and the texts made of them. The property has
had the same 25 characters since version 6.3 of the standard.

## Main definitions

* `isBlank`: the property
* `trim`: a text without blank characters at either end
* `allBlank`: whether a text has no other characters
-/

namespace LinkQuality.Text

/-- The code points with the property, as closed ranges in ascending order. -/
def blankRanges : List (Nat × Nat) :=
  [(0x09, 0x0D), (0x20, 0x20), (0x85, 0x85), (0xA0, 0xA0), (0x1680, 0x1680), (0x2000, 0x200A),
    (0x2028, 0x2029), (0x202F, 0x202F), (0x205F, 0x205F), (0x3000, 0x3000)]

/-- Whether a character is white space. -/
def isBlank (c : Char) : Bool :=
  blankRanges.any fun range => decide (range.1 ≤ c.toNat) && decide (c.toNat ≤ range.2)

/-- The text without the blank characters at its ends. -/
def trim (text : List Char) : List Char :=
  ((text.dropWhile isBlank).reverse.dropWhile isBlank).reverse

/-- Whether every character is blank. -/
def allBlank (text : List Char) : Bool := text.all isBlank

/-- Cuts a text at every occurrence of a separator; the separators are dropped. -/
def cutAt (separator : Char) : List Char → List (List Char)
  | [] => [[]]
  | c :: rest =>
    if c = separator then [] :: cutAt separator rest
    else match cutAt separator rest with
      | [] => [[c]]
      | part :: parts => (c :: part) :: parts

/-- The lines of a text. A line ends at a line feed, of which a carriage return before it is
part; a last line may end at the end of the text. -/
def lines (text : List Char) : List (List Char) :=
  let pieces := cutAt '\n' text
  let ended := pieces.dropLast.map fun line =>
    if line.getLast? = some '\r' then line.dropLast else line
  match pieces.getLast? with
  | none | some [] => ended
  | some last => ended ++ [last]

end LinkQuality.Text
