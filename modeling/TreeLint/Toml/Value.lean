/-!
# TOML values

The values of a TOML text, and its tables while the text is read. A table may be added to in
several places of a text, but not in any place: what is allowed depends on how the table came
about, its `Origin`. A path of keys leads from table to table; through an array of tables it
leads to the last of them.

`Entries.put` adds a value under a dotted key, `Entries.openTable` and `Entries.openRow` do what
the headers `[a.b]` and `[[a.b]]` ask for. They refuse what would define a key twice.
-/

namespace TreeLint.Toml

/-- How a table came about. -/
inductive Origin where
  /-- By a header of its own, as the row of an array of tables, or as the table of the whole
  text. -/
  | header
  /-- On the way to the table of a header. -/
  | implied
  /-- On the way to the value of a dotted key. -/
  | dotted
  /-- Between braces; nothing can be added to it. -/
  | braces
deriving DecidableEq, Inhabited, Repr

/-- A value of a TOML text. -/
inductive Value where
  | text (s : String)
  | integer (i : Int)
  | float (x : Float)
  | boolean (b : Bool)
  /-- A date, a time of day or both, as it is written. -/
  | moment (s : String)
  /-- An array between brackets. -/
  | array (items : List Value)
  /-- An array of the tables of headers `[[a]]`. -/
  | rows (tables : List (List (String × Value)))
  | table (origin : Origin) (entries : List (String × Value))
deriving Inhabited

/-- The entries of a table: every key at most once. -/
abbrev Entries := List (String × Value)

namespace Entries

/-- The entries with a value under a key, in place of the one that was there. -/
def set (entries : Entries) (key : String) (v : Value) : Entries :=
  match entries with
  | [] => [(key, v)]
  | (k, w) :: rest => if k == key then (k, v) :: rest else (k, w) :: set rest key v

/-- The entries after a change in the table that a path leads to from here. Where there is no
table yet, there is one now, of origin `made`; a table that is there may be passed if its origin
allows it. The change learns of the origin of its table. -/
def along (made : Origin) (passable : Origin → Bool) (change : Origin → Entries → Option Entries) :
    (path : List String) → (here : Origin) → Entries → Option Entries
  | [], here, entries => change here entries
  | key :: path, _, entries =>
    match entries.lookup key with
    | none =>
      (along made passable change path made []).map fun inner =>
        entries.set key (.table made inner)
    | some (.table origin inner) =>
      if passable origin then
        (along made passable change path origin inner).map fun inner =>
          entries.set key (.table origin inner)
      else none
    | some (.rows tables) =>
      match tables.getLast? with
      | none => none
      | some row =>
        (along made passable change path .header row).map fun row =>
          entries.set key (.rows (tables.dropLast ++ [row]))
    | some _ => none

/-- Whether a header may lead through a table. -/
def headerPasses (origin : Origin) : Bool := origin != .braces

/-- Whether a dotted key may lead through a table: not through one that a header has defined. -/
def keyPasses (origin : Origin) : Bool := origin == .implied || origin == .dotted

/-- The entries after a change in the table that the path of a header leads to. -/
def inTable (path : List String) (change : Origin → Entries → Option Entries) (entries : Entries) :
    Option Entries :=
  along .implied headerPasses change path .header entries

/-- The entries with one more value under a key that must be new. -/
def add (key : String) (v : Value) (entries : Entries) : Option Entries :=
  if (entries.lookup key).isSome then none else some (entries ++ [(key, v)])

/-- The entries with a value under a dotted key. The table that holds the value is either this
one or one that dotted keys have made. -/
def put (path : List String) (key : String) (v : Value) (entries : Entries) : Option Entries :=
  along .dotted keyPasses
    (fun origin inner => if path.isEmpty || origin == .dotted then inner.add key v else none)
    path .header entries

/-- The entries after a header `[path.key]`: the table is new or was only passed before. -/
def openTable (path : List String) (key : String) (entries : Entries) : Option Entries :=
  entries.inTable path fun _ inner =>
    match inner.lookup key with
    | none => some (inner.set key (.table .header []))
    | some (.table .implied found) => some (inner.set key (.table .header found))
    | some _ => none

/-- The entries after a header `[[path.key]]`: one more row. -/
def openRow (path : List String) (key : String) (entries : Entries) : Option Entries :=
  entries.inTable path fun _ inner =>
    match inner.lookup key with
    | none => some (inner.set key (.rows [[]]))
    | some (.rows tables) => some (inner.set key (.rows (tables ++ [[]])))
    | some _ => none

/-- The entries with a value under a dotted key below the last header. -/
def putUnder (header : List String) (path : List String) (key : String) (v : Value)
    (entries : Entries) : Option Entries :=
  entries.inTable header fun _ inner => inner.put path key v

end Entries

end TreeLint.Toml
