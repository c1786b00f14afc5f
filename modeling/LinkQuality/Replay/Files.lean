import LinkQuality.Text.Blank

/-!
# The files of a replay

A replay reads files by their paths. A folder of texts answers for every path that stays inside it;
of what is outside, it is known only that the folders on the way up are there.

## Main definitions

* `Found`: what a path leads to
* `Files`: what every path leads to
* `Files.ofTexts`: the files of a folder that holds given texts
-/

namespace LinkQuality.Replay

/-- What a path leads to. -/
inductive Found where
  | nothing
  | folder
  | text (content : String)
  deriving DecidableEq, Repr

/-- What every path leads to. -/
abbrev Files := String → Found

/-- The text that a path leads to. -/
def Files.text? (files : Files) (path : String) : Option String :=
  match files path with
  | .text content => some content
  | _ => none

namespace Files

/-- The names between the slashes of a path. -/
def steps (path : List Char) : List (List Char) := Text.cutAt '/' path

/-- Whether a step stays in its folder. -/
def stays (step : List Char) : Bool := step = [] || step = ['.']

/-- Whether a step leads to the folder around its folder. -/
def leaves (step : List Char) : Bool := step = ['.', '.']

/-- What steps lead to from a folder outside. -/
def findOutside (steps : List (List Char)) : Found :=
  if steps.all fun step => stays step || leaves step then .folder else .nothing

/-- What steps lead to from a folder, which is given by the names that lead to it. -/
def find (texts : List (List (List Char) × String)) (here : List (List Char)) :
    List (List Char) → Found
  | [] => .folder
  | step :: rest =>
    if stays step then find texts here rest
    else if leaves step then
      if here.isEmpty then findOutside rest else find texts here.dropLast rest
    else
      let next := here ++ [step]
      match texts.lookup next with
      | some content => if rest.isEmpty then .text content else .nothing
      -- A folder is there as long as some file is in it.
      | none => if texts.any (next.isPrefixOf ·.1) then find texts next rest else .nothing

/-- The files of a folder that holds texts under given paths. -/
def ofTexts (texts : List (String × String)) : Files := fun path =>
  let texts := texts.map fun (path, content) => (steps path.toList, content)
  match path.toList with
  | [] => .nothing
  | '/' :: rest => findOutside (steps rest)
  | path => find texts [] (steps path)

end Files

end LinkQuality.Replay
