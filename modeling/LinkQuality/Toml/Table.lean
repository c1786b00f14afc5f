import LinkQuality.Toml.Value

/-!
# Adding to TOML tables

A table may be written in several places, but no key twice and no table twice. The rules follow the
path from an outer table to the place that is written:

* a table that is not there yet is made, by a header or by a dotted key;
* a path goes on through the last of several tables with the same header;
* a path does not go into a table in braces, and a dotted key not into a table with a header;
* a header may name a table that other headers have implied, and then it is that table;
* a dotted key adds to tables made by dotted keys only.

## Main definitions

* `Entries.alterAt`: changes the table at the end of a path
* `Entries.addKey`, `Entries.addHeader`, `Entries.addToList`: the three kinds of writing
-/

namespace LinkQuality.Toml

/-- A path of keys. -/
abbrev Path := List (List Char)

namespace Entries

/-- Replaces the value of a key that is present. -/
def replace (entries : Entries) (key : List Char) (value : Value) : Entries :=
  entries.map fun entry => if entry.1 = key then (key, value) else entry

/-- Changes the table at the end of a path, making the tables on the way. -/
def alterAt (dotted : Bool) (change : Origin → Entries → Option Entries) :
    Path → Origin → Entries → Option Entries
  | [], origin, entries => change origin entries
  | key :: path, _, entries =>
    match entries.lookup key with
    | none => do
      let origin := if dotted then .dotted else .implied
      let inner ← alterAt dotted change path origin []
      some (entries ++ [(key, .table origin inner)])
    | some (.table origin inner) =>
      -- A table in braces is complete, and dotted keys do not go back to one that had its header.
      if origin = .inline ∨ (dotted ∧ origin = .headed) then none
      else do
        let inner ← alterAt dotted change path origin inner
        some (entries.replace key (.table origin inner))
    | some (.tables items) =>
      -- A path through a list of tables goes on in the last one.
      match items.reverse with
      | [] => none
      | last :: before => do
        let last ← alterAt dotted change path .headed last
        some (entries.replace key (.tables (last :: before).reverse))
    | some _ => none

/-- Writes a value under a key in the current table; the path holds the keys before the last dot. -/
def addKey (entries : Entries) (origin : Origin) (path : Path) (key : List Char) (value : Value) :
    Option Entries :=
  let write (at_ : Origin) (entries : Entries) : Option Entries :=
    if !path.isEmpty ∧ at_ ≠ .dotted then none
    else match entries.lookup key with
      | some _ => none
      | none => some (entries ++ [(key, value)])
  entries.alterAt true write path origin

/-- Begins a table with a header. -/
def addHeader (document : Entries) (path : Path) (key : List Char) : Option Entries :=
  let write (_ : Origin) (entries : Entries) : Option Entries :=
    match entries.lookup key with
    | none => some (entries ++ [(key, .table .headed [])])
    | some (.table .implied inner) => some (entries.replace key (.table .headed inner))
    | some _ => none
  document.alterAt false write path .headed

/-- Begins one more table with the same header in double brackets. -/
def addToList (document : Entries) (path : Path) (key : List Char) : Option Entries :=
  let write (_ : Origin) (entries : Entries) : Option Entries :=
    match entries.lookup key with
    | none => some (entries ++ [(key, .tables [[]])])
    | some (.tables items) => some (entries.replace key (.tables (items ++ [[]])))
    | some _ => none
  document.alterAt false write path .headed

end Entries

end LinkQuality.Toml
