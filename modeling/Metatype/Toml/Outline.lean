import Metatype.Toml.Basic

/-!
# Building tables

Tables grow statement by statement. An outline remembers how each table came to be, which decides
what may still be added to it: a table is defined by at most one header, a value is never reopened,
and dotted keys add only to tables that dotted keys have made.

* `Outline.insert?`: a value under a dotted key.
* `Outline.openTable?`, `Outline.openItem?`: a header, and a header of a table in an array.
* `Outline.toEntries`: the finished table.
-/

namespace Metatype.Toml

/-- How a table came to be. -/
inductive Origin
  /-- By a header of a table below it. -/
  | implied
  /-- By a header of its own. -/
  | header
  /-- By a dotted key. -/
  | dotted
  deriving DecidableEq, Repr

/-- A table under construction, or a finished value. -/
inductive Outline
  | value (v : Value)
  | table (origin : Origin) (entries : List (String × Outline))
  /-- An array of tables, the last one first. -/
  | tables (last : List (String × Outline)) (earlier : List (List (String × Outline)))
  deriving Repr

namespace Outline

/-- Entries under construction. -/
abbrev Entries := List (String × Outline)

/-- The entries with one of them set: replaced in place, or added after the others. -/
def putEntry (entries : Entries) (key : String) (o : Outline) : Entries :=
  match entries with
  | [] => [(key, o)]
  | (k, w) :: rest => if k = key then (key, o) :: rest else (k, w) :: putEntry rest key o

/-! ## Headers -/

/-- Changes the table that a header names, by the parts before the last one. Tables on the way are
opened as they are, of an array the last one, and made where there are none. -/
def within? (change : Entries → Option Entries) : List String → Entries → Option Entries
  | [], entries => change entries
  | key :: path, entries =>
    match entries.lookup key with
    | none => (within? change path []).map fun inner => putEntry entries key (.table .implied inner)
    | some (.table origin inner) =>
      (within? change path inner).map fun inner => putEntry entries key (.table origin inner)
    | some (.tables last earlier) =>
      (within? change path last).map fun last => putEntry entries key (.tables last earlier)
    | some (.value _) => none

/-- Opens a table by its header. It must be new, or known only from headers below it. -/
def openTable? (key : String) (entries : Entries) : Option Entries :=
  match entries.lookup key with
  | none => some (putEntry entries key (.table .header []))
  | some (.table .implied inner) => some (putEntry entries key (.table .header inner))
  | _ => none

/-- Opens one more table of an array. -/
def openItem? (key : String) (entries : Entries) : Option Entries :=
  match entries.lookup key with
  | none => some (putEntry entries key (.tables [] []))
  | some (.tables last earlier) => some (putEntry entries key (.tables [] (last :: earlier)))
  | _ => none

/-! ## Values -/

/-- Sets a value under a dotted key, going on in a table of the given origin. The table it ends up
in must be made by dotted keys too, unless the key has a single part. -/
def insertBelow? (v : Value) : Origin → List String → Entries → Option Entries
  | _, [], _ => none
  | origin, [key], entries =>
    if origin = .dotted then
      match entries.lookup key with
      | none => some (putEntry entries key (.value v))
      | some _ => none
    else none
  | _, key :: path, entries =>
    match entries.lookup key with
    | none =>
      (insertBelow? v .dotted path []).map fun inner =>
        putEntry entries key (.table .dotted inner)
    | some (.table .header _) => none
    | some (.table origin inner) =>
      (insertBelow? v origin path inner).map fun inner => putEntry entries key (.table origin inner)
    | some (.tables last earlier) =>
      (insertBelow? v .header path last).map fun last => putEntry entries key (.tables last earlier)
    | some (.value _) => none

/-- Sets a value under a dotted key of an open table. -/
def insert? (v : Value) (path : List String) (entries : Entries) : Option Entries :=
  match path with
  | [key] =>
    match entries.lookup key with
    | none => some (putEntry entries key (.value v))
    | some _ => none
  | path => insertBelow? v .header path entries

/-! ## Finished tables -/

mutual

/-- The finished value. -/
def toValue : Outline → Value
  | .value v => v
  | .table _ entries => .table (toEntries entries)
  | .tables last earlier => .array (toTables earlier [.table (toEntries last)])

/-- The finished entries. -/
def toEntries : List (String × Outline) → List (String × Value)
  | [] => []
  | (k, o) :: rest => (k, o.toValue) :: toEntries rest

/-- The finished tables of an array before those already finished. -/
def toTables : List (List (String × Outline)) → List Value → List Value
  | [], done => done
  | entries :: rest, done => toTables rest (.table (toEntries entries) :: done)

end

end Outline

end Metatype.Toml
