/-!
# TOML values

The values of a TOML document, and tables as they grow while a document is read. A table remembers
how it was written, because that decides what may be added to it:

* a table in braces is complete;
* a table with a header takes the keys below the header, and no second header;
* a table that only the headers of inner tables imply can still be given its own header;
* a table that keys with dots imply takes more such keys, and no header.

Of a number that is no integer, and of a date or a time, only the fact that it is one is kept.
-/

namespace TicketTrail

/-- How a table was written. -/
inductive Toml.Origin where
  | braces
  | header
  | impliedByHeader
  | impliedByDots
deriving Repr, DecidableEq

/-- A TOML value. -/
inductive Toml where
  | string (s : String)
  | integer (n : Int)
  | float
  | boolean (b : Bool)
  | time
  | array (items : List Toml)
  | table (origin : Toml.Origin) (pairs : List (String × Toml))
  /-- An array of tables with headers, the last one first. -/
  | tables (elements : List (List (String × Toml)))
deriving Repr, Inhabited

namespace Toml

/-- The pairs of a table, in the order in which they were written. -/
abbrev Pairs := List (String × Toml)

/-- Changes the value of a key, or gives the key a value. -/
def alter (name : String) (f : Option Toml → Option Toml) : Pairs → Option Pairs
  | [] => (f none).map fun value => [(name, value)]
  | (other, value) :: rest =>
    if other = name then (f (some value)).map fun value => (name, value) :: rest
    else (alter name f rest).map ((other, value) :: ·)

/-- Sets a key, whose parts dots separate. A key is set once; the tables before the last dot must be
new, implied, or the last of an array of tables, and the one that takes the value must be implied by
dots. -/
def set (path : List String) (value : Toml) (pairs : Pairs) : Option Pairs :=
  match path with
  | [] => none
  | [name] => alter name (fun old => if old.isNone then some value else none) pairs
  | name :: rest =>
    alter name (fun
      | none => (set rest value []).map (table .impliedByDots)
      | some (table .impliedByDots inner) => (set rest value inner).map (table .impliedByDots)
      | some (table .impliedByHeader inner) =>
        if rest.length = 1 then none
        else (set rest value inner).map (table .impliedByHeader)
      | some (tables (last :: before)) =>
        if rest.length = 1 then none
        else (set rest value last).map fun last => tables (last :: before)
      | some _ => none) pairs

/-- Changes the pairs of the table that a header named; of an array of tables this is the last
one. -/
def within (path : List String) (f : Pairs → Option Pairs) (pairs : Pairs) : Option Pairs :=
  match path with
  | [] => f pairs
  | name :: rest =>
    alter name (fun
      | some (table .braces _) => none
      | some (table origin inner) => (within rest f inner).map (table origin)
      | some (tables (last :: before)) =>
        (within rest f last).map fun last => tables (last :: before)
      | _ => none) pairs

/-- Changes the value of the last part of a header's path; tables that are missing before it are
implied. -/
def atHeader (path : List String) (f : Option Toml → Option Toml) (pairs : Pairs) :
    Option Pairs :=
  match path with
  | [] => none
  | [name] => alter name f pairs
  | name :: rest =>
    alter name (fun
      | none => (atHeader rest f []).map (table .impliedByHeader)
      | some (table .braces _) => none
      | some (table origin inner) => (atHeader rest f inner).map (table origin)
      | some (tables (last :: before)) =>
        (atHeader rest f last).map fun last => tables (last :: before)
      | some _ => none) pairs

/-- Opens the table of a header `[path]`. -/
def openTable (path : List String) (pairs : Pairs) : Option Pairs :=
  atHeader path (fun
    | none => some (table .header [])
    | some (table .impliedByHeader inner) => some (table .header inner)
    | some _ => none) pairs

/-- Opens the next table of a header `[[path]]`. -/
def openElement (path : List String) (pairs : Pairs) : Option Pairs :=
  atHeader path (fun
    | none => some (tables [[]])
    | some (tables elements) => some (tables ([] :: elements))
    | some _ => none) pairs

end Toml

end TicketTrail
