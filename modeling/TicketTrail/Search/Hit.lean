import TicketTrail.Search.Evaluation
import TicketTrail.Search.Trail
import TicketTrail.Snapshot.Format

/-!
# Hits

A hit is a ticket as a search shows it: by name, and on request with the grounds for the hit and
with the trail of the ticket. It is written as lines of text or in JSON.
-/

namespace TicketTrail

/-- A ticket that a search found. -/
structure Hit where
  id : String
  title : String
  status : String
  priority : String
  projects : List String
  grounds : Option Grounds
  trail : Option Trail
deriving Repr, DecidableEq

namespace Grounds

/-- A field for a pattern that matched. -/
def patternField (name : String) (text : Option String) : List (String × Json) :=
  text.toList.map fun t => (name, .string t)

/-- The fields of the grounds; what there is none of is left out. -/
def toFields (g : Grounds) : List (String × Json) :=
  (if g.boards.isEmpty then [] else [("matched_boards", .strings g.boards)]) ++
    patternField "matched_priority" g.priority ++ patternField "matched_status" g.status

/-- The lines for the grounds. -/
def lines (g : Grounds) : List String :=
  (if g.boards.isEmpty then []
    else ["    matched boards: " ++ String.intercalate ", " g.boards]) ++
    g.priority.toList.map ("    matched priority: " ++ ·) ++
    g.status.toList.map ("    matched status: " ++ ·)

end Grounds

/-- An event in a line of text, with the date on which it was made. -/
def Event.describe (e : Event) : String :=
  (match e.prior with
    | some prior => prior ++ " -> "
    | none => "-> ") ++ e.next ++ " (" ++ e.time.dateText ++ ")"

/-- Writes a column change. -/
def BoardEvent.toJson (e : BoardEvent) : Json :=
  .object (("board", .string e.board) :: e.toEvent.toFields)

namespace Trail

/-- Writes a trail. -/
def toJson (trail : Trail) : Json :=
  .object [("columns", .array (trail.columns.map BoardEvent.toJson)),
    ("priority", .array (trail.priority.map Event.toJson)),
    ("status", .array (trail.status.map Event.toJson))]

/-- The lines for a trail. -/
def lines (trail : Trail) : List String :=
  (trail.columns.map fun e => "    column " ++ e.board ++ ": " ++ e.describe) ++
    (trail.priority.map fun e => "    priority: " ++ e.describe) ++
    trail.status.map fun e => "    status: " ++ e.describe

end Trail

namespace Hit

/-- Writes a hit. -/
def toJson (hit : Hit) : Json :=
  .object ([("id", .string hit.id), ("title", .string hit.title), ("status", .string hit.status),
      ("priority", .string hit.priority), ("projects", .strings hit.projects)] ++
    (hit.grounds.map Grounds.toFields).getD [] ++
    hit.trail.toList.map fun trail => ("history", trail.toJson))

/-- The lines for a hit. -/
def lines (hit : Hit) : List String :=
  [hit.id ++ "  " ++ hit.status ++ "  " ++ hit.priority ++ "  " ++ hit.title] ++
    (hit.grounds.map Grounds.lines).getD [] ++ (hit.trail.map Trail.lines).getD []

/-- The lines for all hits of a search. -/
def allLines (hits : List Hit) : List String :=
  if hits.isEmpty then ["No matching tasks."]
  else hits.flatMap Hit.lines ++ ["", "Found " ++ toString hits.length ++ " task(s)"]

/-- Writes all hits of a search. -/
def allToJson (hits : List Hit) : Json :=
  .array (hits.map Hit.toJson)

end Hit

end TicketTrail
