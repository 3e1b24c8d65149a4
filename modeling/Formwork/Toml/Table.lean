import Formwork.Json.Basic

/-!
# Tables of TOML

A document is a table that grows statement by statement. A header names a table, a header in double
brackets adds one more table to a list, and an assignment sets a key. No table is named by two
headers, no key is set twice, and a table that dotted keys made is changed by dotted keys only: hence
each table remembers how it came to be. Entries keep the order in which they were made.
-/

namespace Formwork.Toml

/-- How a table came to be. -/
inductive Origin where
  /-- A header names it, or it is the whole document. -/
  | header
  /-- A longer header goes through it. -/
  | passage
  /-- A dotted key goes through it. -/
  | dotted
deriving DecidableEq, Repr

/-- What a key stands for. -/
inductive Item where
  /-- A string. -/
  | string (text : String)
  /-- A number, a truth value or a moment, whose text is its value. -/
  | bare (json : Json)
  /-- An array, which nothing can be added to. -/
  | array (items : List Item)
  /-- An inline table, which nothing can be added to. -/
  | inline (entries : List (String × Item))
  /-- A table. -/
  | table (origin : Origin) (entries : List (String × Item))
  /-- Tables in a list, last first. -/
  | tables (reversed : List (List (String × Item)))
deriving Repr

/-- A change of the entries of a table, given how the table came to be. -/
abbrev Change := Origin → Entries Item → Option (Entries Item)

/-- Sets a key where it stands, or behind the other keys. -/
def put (key : String) (item : Item) : Entries Item → Entries Item
  | [] => [(key, item)]
  | (name, other) :: rest =>
    if name = key then (key, item) :: rest else (name, other) :: put key item rest

/-- Changes the table at the end of a path. Tables that are missing on the way are made, and a list of
tables stands for its last one. A dotted key may not go through a table that a header names. -/
def alterAt (made : Origin) (change : Change) : List String → Change
  | [], origin, entries => change origin entries
  | key :: path, _, entries =>
    match entries.get? key with
    | none => do
      return put key (.table made (← alterAt made change path made [])) entries
    | some (.table origin inner) =>
      if made = .dotted ∧ origin = .header then none
      else do return put key (.table origin (← alterAt made change path origin inner)) entries
    | some (.tables (last :: earlier)) => do
      return put key (.tables ((← alterAt made change path .header last) :: earlier)) entries
    | some _ => none

/-- Sets a key that is not set yet. A key with points in front of its last part belongs to a table
that dotted keys made; one without never does. -/
def setKey (viaPoints : Bool) (key : String) (value : Item) : Change := fun origin entries =>
  if decide (origin = .dotted) ≠ viaPoints ∨ (entries.get? key).isSome then none
  else some (put key value entries)

/-- Sets a key at the end of a dotted path. -/
def assign (path : List String) (key : String) (value : Item) : Change :=
  alterAt .dotted (setKey (!path.isEmpty) key value) path

/-- Names a table by a header. A table that longer headers went through before moves behind the other
keys. -/
def openTable (key : String) : Change := fun _ entries =>
  match entries.get? key with
  | none => some (put key (.table .header []) entries)
  | some (.table .passage inner) => some (put key (.table .header inner) (entries.erase key))
  | some _ => none

/-- Adds a table to a list of tables. -/
def appendTable (key : String) : Change := fun _ entries =>
  match entries.get? key with
  | none => some (put key (.tables [[]]) entries)
  | some (.tables reversed) => some (put key (.tables ([] :: reversed)) entries)
  | some _ => none

end Formwork.Toml
