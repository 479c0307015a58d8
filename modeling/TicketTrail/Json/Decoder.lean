import TicketTrail.Json.Value

/-!
# Taking JSON values apart

A record is written as an object or as an array. In an object the fields have names; fields that the
record does not have are passed over, and no field of the record may be repeated. In an array the
fields come in the order of the record, and those at the end may be missing.
-/

namespace TicketTrail.Json

/-- Why a JSON value is not what was looked for. -/
inductive Fault where
  | malformed
  | expected (what : String)
  | missingField (name : String)
  | duplicateField (name : String)
  | tooManyItems
  | unknownVariant (name : String)
deriving Repr, DecidableEq

/-- The fault as it is told. -/
def Fault.message : Fault → String
  | malformed => "malformed JSON"
  | expected what => "expected " ++ what
  | missingField name => "missing field '" ++ name ++ "'"
  | duplicateField name => "duplicate field '" ++ name ++ "'"
  | tooManyItems => "too many items"
  | unknownVariant name => "unknown variant '" ++ name ++ "'"

/-- A text. -/
def toText : Json → Except Fault String
  | string s => .ok s
  | _ => .error (.expected "a string")

/-- A value that may be null. -/
def toOption {α : Type} (decode : Json → Except Fault α) : Json → Except Fault (Option α)
  | null => .ok none
  | value => (decode value).map some

/-- An array whose items all have one form. -/
def toList {α : Type} (decode : Json → Except Fault α) : Json → Except Fault (List α)
  | array items => items.mapM decode
  | _ => .error (.expected "an array")

/-- An object whose fields all have one form. -/
def toPairs {α : Type} (decode : Json → Except Fault α) :
    Json → Except Fault (List (String × α))
  | object fields => fields.mapM fun (name, value) => (decode value).map fun a => (name, a)
  | _ => .error (.expected "an object")

/-- A signed 64-bit integer. -/
def toInt64 : Json → Except Fault Int64
  | integer n =>
    if Int64.minValue.toInt ≤ n ∧ n ≤ Int64.maxValue.toInt then .ok (Int64.ofInt n)
    else .error (.expected "a signed 64-bit integer")
  | _ => .error (.expected "a signed 64-bit integer")

/-- An unsigned 64-bit integer. -/
def toUInt64 : Json → Except Fault UInt64
  | integer n =>
    if 0 ≤ n ∧ n < (UInt64.size : Int) then .ok (UInt64.ofNat n.toNat)
    else .error (.expected "an unsigned 64-bit integer")
  | _ => .error (.expected "an unsigned 64-bit integer")

/-! ## Records -/

/-- The fields of a record that were given, each once. -/
abbrev Record := List (String × Json)

/-- The first name of the list that stands in it again. -/
def firstRepeated? : List String → Option String
  | [] => none
  | name :: rest => if rest.contains name then some name else firstRepeated? rest

/-- The fields of a record given as an object. -/
def recordOfFields (names : List String) (fields : List (String × Json)) : Except Fault Record :=
  let known := fields.filter fun (name, _) => names.contains name
  match firstRepeated? (known.map Prod.fst) with
  | some name => .error (.duplicateField name)
  | none => .ok known

/-- The fields of a record given as an array. -/
def recordOfItems (names : List String) (items : List Json) : Except Fault Record :=
  if names.length < items.length then .error .tooManyItems else .ok (names.zip items)

/-- The fields of a record. -/
def toRecord (names : List String) : Json → Except Fault Record
  | object fields => recordOfFields names fields
  | array items => recordOfItems names items
  | _ => .error (.expected "a record")

namespace Record

/-- A field that must be given. -/
def required {α : Type} (record : Record) (name : String) (decode : Json → Except Fault α) :
    Except Fault α :=
  match record.lookup name with
  | some value => decode value
  | none => .error (.missingField name)

/-- A field with a default. -/
def withDefault {α : Type} (record : Record) (name : String) (default : α)
    (decode : Json → Except Fault α) : Except Fault α :=
  match record.lookup name with
  | some value => decode value
  | none => .ok default

/-- A field that may be missing or null. -/
def optional {α : Type} (record : Record) (name : String) (decode : Json → Except Fault α) :
    Except Fault (Option α) :=
  record.withDefault name none (toOption decode)

end Record

end TicketTrail.Json
