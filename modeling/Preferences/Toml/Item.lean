import Preferences.Toml.Value

/-!
# Putting a TOML document together

A document is put together line by line from headers and from keys with values. A table is made in
one of three ways: stated by a header of its own, implied by the header of a table inside it, or
dotted, which is to say made by the points of a key. A header may state a table once, and an
implied one afterwards; a key with points may only go into tables that such keys have made. Nothing
may be given twice.
-/

namespace Preferences.Toml

/-- How a table was made. -/
inductive Origin where
  | stated
  | implied
  | dotted
deriving DecidableEq, Repr

inductive Item where
  | value (value : Value)
  | table (origin : Origin) (entries : List (String × Item))
  /-- An array of tables, each stated by a header. -/
  | tables (elements : List (List (String × Item)))

abbrev Entries := List (String × Item)

namespace Entries

/-- Makes or replaces what stands under a key; a failure of `f` is a failure of the whole. -/
def alter (key : String) (f : Option Item → Option Item) : Entries → Option Entries
  | [] => (f none).map fun item => [(key, item)]
  | (k, item) :: rest =>
    if k = key then (f (some item)).map fun item => (k, item) :: rest
    else (alter key f rest).map ((k, item) :: ·)

/-- Changes the last element of an array of tables. -/
def alterLast (f : Entries → Option Entries) : List Entries → Option (List Entries)
  | [] => none
  | [last] => (f last).map fun last => [last]
  | first :: rest => (alterLast f rest).map (first :: ·)

/-- Goes down to the table that a header names, making implied tables on the way. -/
def within (f : Entries → Option Entries) : List String → Entries → Option Entries
  | [], entries => f entries
  | key :: path, entries =>
    alter key (fun
      | none => (within f path []).map (Item.table .implied)
      | some (.table origin inner) => (within f path inner).map (Item.table origin)
      | some (.tables elements) => (alterLast (within f path) elements).map Item.tables
      | some (.value _) => none) entries

/-- States the table with a key. A table that was implied until now moves behind the other
entries. -/
def state (key : String) (entries : Entries) : Option Entries :=
  match entries.lookup key with
  | none => some (entries ++ [(key, .table .stated [])])
  | some (.table .implied inner) =>
    some (entries.filter (fun entry => entry.1 != key) ++ [(key, .table .stated inner)])
  | some _ => none

/-- Adds an empty table to the array of tables with a key. -/
def push (key : String) : Entries → Option Entries :=
  alter key fun
    | none => some (.tables [[]])
    | some (.tables elements) => some (.tables (elements ++ [[]]))
    | some _ => none

/-- Puts a value under a key with points, of which the last part must be new. `isOpen` says whether
the table at hand may take it. -/
def assign (value : Value) : List String → Bool → Entries → Option Entries
  | [], _, _ => none
  | [key], isOpen, entries =>
    if isOpen then
      alter key (fun
        | none => some (.value value)
        | some _ => none) entries
    else none
  | key :: path, _, entries =>
    alter key (fun
      | none => (assign value path true []).map (Item.table .dotted)
      | some (.table .dotted inner) => (assign value path true inner).map (Item.table .dotted)
      | some (.table .implied inner) => (assign value path false inner).map (Item.table .implied)
      | some (.tables elements) => (alterLast (assign value path false) elements).map Item.tables
      | some _ => none) entries

end Entries

/-! ### The finished document -/

mutual

def Item.toValue : Item → Value
  | .value value => value
  | .table _ entries => .table (Entries.toValues entries)
  | .tables elements => .array (Entries.toTables elements)

def Entries.toValues : List (String × Item) → List (String × Value)
  | [] => []
  | (key, item) :: rest => (key, Item.toValue item) :: Entries.toValues rest

def Entries.toTables : List (List (String × Item)) → List Value
  | [] => []
  | entries :: rest => .table (Entries.toValues entries) :: Entries.toTables rest

end

end Preferences.Toml
