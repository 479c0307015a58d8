/-!
# JSON values

The values of a JSON document. An object keeps its fields in the order in which they were written,
repeated names included. A number is kept as an integer when it is written as one; any other number,
and `-0`, is kept as it was written.
-/

namespace TicketTrail

/-- A JSON value. -/
inductive Json where
  | null
  | bool (b : Bool)
  | integer (n : Int)
  | decimal (text : String)
  | string (s : String)
  /-- A string with an escape for half of a surrogate pair, or an object with such a name. It is
  well-formed but spells no value. -/
  | garbled
  | array (items : List Json)
  | object (fields : List (String × Json))
deriving Repr, Inhabited

namespace Json

/-- A string or nothing. -/
def ofOption (s : Option String) : Json :=
  match s with
  | some s => string s
  | none => null

/-- An array of strings. -/
def strings (l : List String) : Json :=
  array (l.map string)

/-- Puts a field in front of the first one with a greater name. -/
def insertField (field : String × Json) : List (String × Json) → List (String × Json)
  | [] => [field]
  | other :: rest =>
    if field.1 < other.1 then field :: other :: rest else other :: insertField field rest

mutual

/-- The value with the fields of every object in order of their names. -/
def sortKeys : Json → Json
  | array items => array (sortKeysAll items)
  | object fields => object (sortKeysFields fields)
  | value => value

/-- `sortKeys` on every item. -/
def sortKeysAll : List Json → List Json
  | [] => []
  | item :: rest => sortKeys item :: sortKeysAll rest

/-- `sortKeys` on every field, and on the list of fields itself. -/
def sortKeysFields : List (String × Json) → List (String × Json)
  | [] => []
  | (name, value) :: rest => insertField (name, sortKeys value) (sortKeysFields rest)

end

end Json

end TicketTrail
