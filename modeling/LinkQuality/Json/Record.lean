import LinkQuality.Json.Value

/-!
# Reading records from JSON

A record is an object with known members. Unknown members are ignored, a known member may not be
given twice, and every key must be a text. An array may stand for a record: its items are the
members in the order in which the record lists them, and it may end early but not late.

## Main definitions

* `Fields`, `Json.fields?`: the members of a record that are present
* `Fields.required`, `Fields.optional`: reading one of them
* `Json.natBelow?`, `Json.intWithin?`, `Json.float?`, `Json.list?`: reading values
-/

namespace LinkQuality.Json

/-- The members of a record that are present. -/
abbrev Fields := List (String × Json)

/-- Whether no name is given twice. -/
def namesApart : List String → Bool
  | [] => true
  | name :: rest => !rest.contains name && namesApart rest

/-- The texts of all keys, unless one is not a text. -/
def keyed? : List (Option String × Json) → Option Fields
  | [] => some []
  | (none, _) :: _ => none
  | (some key, value) :: rest => (keyed? rest).map ((key, value) :: ·)

/-- The known members of an object, or of an array that stands for one. -/
def fields? (names : List String) : Json → Option Fields
  | .object members => do
    let all ← keyed? members
    let known := all.filter fun member => names.contains member.1
    if namesApart (known.map Prod.fst) then some known else none
  | .array items => if items.length ≤ names.length then some (names.zip items) else none
  | _ => none

namespace Fields

variable {β : Type}

/-- The value of a member that may be absent. -/
def optional (fields : Fields) (name : String) (read : Json → Option β) (absent : β) : Option β :=
  match fields.lookup name with
  | none => some absent
  | some value => read value

/-- The value of a member that must be present. -/
def required (fields : Fields) (name : String) (read : Json → Option β) : Option β :=
  (fields.lookup name).bind read

end Fields

/-- Reads an integer. -/
def int? : Json → Option Int
  | .number value => value.toInt?
  | _ => none

/-- Reads a natural number below a bound. -/
def natBelow? (bound : Nat) (json : Json) : Option Nat := do
  let value ← json.int?
  if 0 ≤ value ∧ value < bound then some value.toNat else none

/-- Reads an integer between two bounds. -/
def intWithin? (lower upper : Int) (json : Json) : Option Int := do
  let value ← json.int?
  if lower ≤ value ∧ value ≤ upper then some value else none

/-- Reads a 64-bit count. -/
def count? : Json → Option Nat := natBelow? 0x10000000000000000

/-- Reads a signed 32-bit integer. -/
def int32? : Json → Option Int := intWithin? (-0x80000000) 0x7FFFFFFF

/-- Reads a signed 64-bit integer. -/
def int64? : Json → Option Int := intWithin? (-0x8000000000000000) 0x7FFFFFFFFFFFFFFF

/-- Reads a floating-point number; a whole number may stand for one. -/
def float? : Json → Option Float
  | .number value => value.toFloat?
  | _ => none

/-- Reads a text. -/
def text? : Json → Option String
  | .string value => value
  | _ => none

/-- Reads an array of values of one kind. -/
def list? {β : Type} (read : Json → Option β) : Json → Option (List β)
  | .array items => items.mapM read
  | _ => none

end LinkQuality.Json
