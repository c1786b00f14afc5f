import LinkQuality.Toml.Value

/-!
# Reading records from TOML

A record is a table with known keys; other keys are ignored, but what is written like a number under
them must be one. An array may stand for a record: its items are the members in the order in which
the record lists them, and items that are missing are absent members. Nobody looks at the items
after those. A date stands for a record of which every member is absent.
-/

namespace LinkQuality.Toml

/-- The members of a record that are present. -/
abbrev Fields := List (String × Value)

namespace Value

/-- The known members of a value that stands for a record. -/
def fields? (names : List String) : Value → Option Fields
  | .table _ entries =>
    if entries.all fun (key, value) => names.any (·.toList == key) || value.isValid then
      some (names.filterMap fun name => (entries.lookup name.toList).map fun value => (name, value))
    else none
  | .array items => some (names.zip items)
  | .tables items => some (names.zip (items.map (.table .headed)))
  | .moment _ => some []
  | _ => none

/-- Reads an integer between two bounds. -/
def intWithin? (lower upper : Int) : Value → Option Int
  | .integer n => if lower ≤ n ∧ n ≤ upper then some n else none
  | _ => none

/-- Reads a natural number below a bound. -/
def natBelow? (bound : Nat) : Value → Option Nat
  | .integer n => if 0 ≤ n ∧ n < bound then some n.toNat else none
  | _ => none

/-- Reads a floating-point number; an integer of at most 64 bits may stand for one. -/
def float? : Value → Option Float
  | .float x => some x
  | .integer n =>
    if -0x8000000000000000 ≤ n ∧ n < 0x10000000000000000 then some (Float.ofInt n) else none
  | _ => none

/-- Reads a boolean. -/
def boolean? : Value → Option Bool
  | .boolean b => some b
  | _ => none

/-- Reads one of several words. A table whose only key is the word, with nothing under it, may
stand for the word. -/
def word? : Value → Option (List Char)
  | .text chars => some chars
  | .table _ [(word, .table _ [])] => some word
  | .table _ [(word, .array [])] => some word
  | _ => none

end Value

namespace Fields

variable {β : Type}

/-- The value of a member that may be absent. -/
def optional (fields : Fields) (name : String) (read : Value → Option β) : Option (Option β) :=
  match fields.lookup name with
  | none => some none
  | some value => (read value).map some

/-- The value of a member that has a value also when it is absent. -/
def orElse (fields : Fields) (name : String) (read : Value → Option β) (absent : β) : Option β :=
  match fields.lookup name with
  | none => some absent
  | some value => read value

end Fields

end LinkQuality.Toml
