import TicketTrail.Files
import TicketTrail.Json.Decoder
import TicketTrail.Json.Held
import TicketTrail.Json.Printer
import TicketTrail.Json.Reader
import TicketTrail.Snapshot
import TicketTrail.Time.Rfc3339

/-!
# The form of a snapshot file

How snapshots and events are written in JSON and read back. Absent lists, maps and sequences are
empty or 0; an absent or null old value is no value.
-/

namespace TicketTrail

namespace Instant

/-- Reads an instant. -/
def ofJson (value : Json) : Except Json.Fault Instant := do
  let text ← value.toText
  match parse? text with
  | some t => return t
  | none => throw (.expected "a timestamp")

/-- Writes an instant. -/
def toJson (t : Instant) : Json :=
  .string t.text

end Instant

namespace Event

/-- Reads an event. -/
def ofJson (value : Json) : Except Json.Fault Event := do
  let record ← value.toRecord ["prior", "new", "at"]
  let prior ← record.optional "prior" Json.toText
  let next ← record.required "new" Json.toText
  let time ← record.required "at" Instant.ofJson
  return { prior, next, time }

/-- The fields of an event. The prior state is left out when there is none. -/
def toFields (e : Event) : List (String × Json) :=
  (match e.prior with
    | some prior => [("prior", Json.string prior)]
    | none => []) ++
    [("new", .string e.next), ("at", e.time.toJson)]

/-- Writes an event. -/
def toJson (e : Event) : Json :=
  .object e.toFields

end Event

namespace Column

/-- Reads a column. -/
def ofJson (value : Json) : Except Json.Fault Column := do
  let record ← value.toRecord ["id", "name", "sequence"]
  let id ← record.required "id" Json.toText
  let name ← record.required "name" Json.toText
  let sequence ← record.withDefault "sequence" 0 Json.toInt64
  return { id, name, sequence }

/-- Writes a column. -/
def toJson (c : Column) : Json :=
  .object [("id", .string c.id), ("name", .string c.name), ("sequence", .integer c.sequence.toInt)]

end Column

namespace Project

/-- Reads a project. -/
def ofJson (value : Json) : Except Json.Fault Project := do
  let record ← value.toRecord ["id", "name", "slugs", "columns"]
  let id ← record.required "id" Json.toText
  let name ← record.required "name" Json.toText
  let slugs ← record.withDefault "slugs" [] (Json.toList Json.toText)
  let columns ← record.withDefault "columns" [] (Json.toList Column.ofJson)
  return { id, name, slugs, columns }

/-- Writes a project. -/
def toJson (p : Project) : Json :=
  .object [("id", .string p.id), ("name", .string p.name), ("slugs", .strings p.slugs),
    ("columns", .array (p.columns.map Column.toJson))]

end Project

/-- Reads a dictionary of texts; of two fields of one name the later one counts. -/
def Dictionary.ofJson (value : Json) : Except Json.Fault (Dictionary String) := do
  let entries ← value.toPairs Json.toText
  return Dictionary.ofList entries

/-- Writes a dictionary of texts. -/
def Dictionary.toJson (d : Dictionary String) : Json :=
  .object (d.entries.map fun (key, value) => (key, .string value))

namespace StatusList

/-- Reads the statuses of a tracker. -/
def ofJson (value : Json) : Except Json.Fault StatusList := do
  let record ← value.toRecord ["open", "closed", "names"]
  let openKeys ← record.withDefault "open" [] (Json.toList Json.toText)
  let closedKeys ← record.withDefault "closed" [] (Json.toList Json.toText)
  let names ← record.withDefault "names" Dictionary.empty Dictionary.ofJson
  return { openKeys, closedKeys, names }

/-- Writes the statuses of a tracker. -/
def toJson (s : StatusList) : Json :=
  .object [("open", .strings s.openKeys), ("closed", .strings s.closedKeys),
    ("names", s.names.toJson)]

end StatusList

namespace Change

/-- How many arrays and objects a reader keeps open; a change stands inside four of them. -/
def openLimit : Nat := 127

/-- Takes the name of the changed field off a change: that name, and the record of the rest. The
record is read once its own names are known. -/
def splitField : Json → Except Json.Fault (Json × Json)
  | .object fields =>
    match (fields.filter fun (name, _) => name == "field").map Prod.snd with
    | [tag] => .ok (tag, .object (fields.filter fun (name, _) => name != "field"))
    | [] => .error (.missingField "field")
    | _ => .error (.duplicateField "field")
  | .array (tag :: items) => .ok (tag, .array items)
  | .array [] => .error (.missingField "field")
  | _ => .error (.expected "a change")

/-- Reads the values and the time of a change. -/
def eventOfRecord (record : Json.Record) : Except Json.Fault Event := do
  let prior ← record.optional "old" Json.toText
  let next ← record.required "new" Json.toText
  let time ← record.required "at" Instant.ofJson
  return { prior, next, time }

/-- Reads a change. -/
def ofJson (value : Json) : Except Json.Fault Change := do
  if !value.isHeld (openLimit - 4) then throw (.expected "a value that can be held")
  let (tag, rest) ← splitField value
  let name ← tag.toText
  match name with
  | "status" =>
    let event ← eventOfRecord (← rest.toRecord ["old", "new", "at"])
    return { event with field := .status }
  | "priority" =>
    let event ← eventOfRecord (← rest.toRecord ["old", "new", "at"])
    return { event with field := .priority }
  | "column" =>
    let record ← rest.toRecord ["board", "old", "new", "at"]
    let board ← record.required "board" Json.toText
    let event ← eventOfRecord record
    return { event with field := .column board }
  | other => throw (.unknownVariant other)

/-- The name of the changed field, and the board when it is a column. -/
def Field.toFields : Field → List (String × Json)
  | status => [("field", .string "status")]
  | priority => [("field", .string "priority")]
  | column board => [("field", .string "column"), ("board", .string board)]

/-- Writes a change. The old value is written as null when there is none. -/
def toJson (c : Change) : Json :=
  .object (c.field.toFields ++
    [("old", .ofOption c.prior), ("new", .string c.next), ("at", c.time.toJson)])

end Change

namespace Ticket

/-- Reads a ticket. -/
def ofJson (value : Json) : Except Json.Fault Ticket := do
  let record ← value.toRecord
    ["id", "title", "status", "priority", "created_at", "updated_at", "projects", "columns",
      "history"]
  let id ← record.required "id" Json.toUInt64
  let title ← record.required "title" Json.toText
  let status ← record.required "status" Json.toText
  let priority ← record.required "priority" Json.toText
  let createdAt ← record.required "created_at" Instant.ofJson
  let updatedAt ← record.required "updated_at" Instant.ofJson
  let projects ← record.withDefault "projects" [] (Json.toList Json.toText)
  let columns ← record.withDefault "columns" Dictionary.empty Dictionary.ofJson
  let history ← record.withDefault "history" [] (Json.toList Change.ofJson)
  return { id, title, status, priority, createdAt, updatedAt, projects, columns, history }

/-- Writes a ticket. -/
def toJson (t : Ticket) : Json :=
  .object [("id", .integer t.id.toNat), ("title", .string t.title), ("status", .string t.status),
    ("priority", .string t.priority), ("created_at", t.createdAt.toJson),
    ("updated_at", t.updatedAt.toJson), ("projects", .strings t.projects),
    ("columns", t.columns.toJson), ("history", .array (t.history.map Change.toJson))]

end Ticket

namespace Snapshot

/-- Reads a snapshot. -/
def ofJson (value : Json) : Except Json.Fault Snapshot := do
  let record ← value.toRecord ["projects", "statuses", "tasks"]
  let projects ← record.withDefault "projects" [] (Json.toList Project.ofJson)
  let statuses ← record.optional "statuses" StatusList.ofJson
  let tickets ← record.withDefault "tasks" [] (Json.toList Ticket.ofJson)
  return { projects, statuses, tickets }

/-- Writes a snapshot. The statuses are left out when there are none. -/
def toJson (s : Snapshot) : Json :=
  .object ([("projects", .array (s.projects.map Project.toJson))] ++
    (match s.statuses with
      | some statuses => [("statuses", statuses.toJson)]
      | none => []) ++
    [("tasks", .array (s.tickets.map Ticket.toJson))])

/-- Reads the text of a snapshot file. -/
def parse (text : String) : Except Json.Fault Snapshot :=
  match Json.parse? text with
  | some value => ofJson value
  | none => .error .malformed

end Snapshot

/-- Why there is no snapshot at a path. -/
inductive SnapshotError where
  /-- The file cannot be read. -/
  | unreadable (path reason : String)
  /-- The file is not in the form of a snapshot. -/
  | malformed (path : String) (fault : Json.Fault)
deriving Repr, DecidableEq

/-- The error as it is told. -/
def SnapshotError.message : SnapshotError → String
  | unreadable path reason => "Failed to read snapshot " ++ path ++ ": " ++ reason ++ ": " ++ reason
  | malformed path fault =>
    "Failed to parse snapshot " ++ path ++ ": " ++ fault.message ++ ": " ++ fault.message

/-- Reads a snapshot file. -/
def Snapshot.load (files : Files) (path : String) : Except SnapshotError Snapshot :=
  match files.read path with
  | .ok text => (parse text).mapError (.malformed path)
  | .error fault => .error (.unreadable path fault.reason)

end TicketTrail
