import TicketTrail.Dictionary
import TicketTrail.Event

/-!
# Snapshots

A snapshot is an export of the tracker: its projects with their board columns, its statuses if it
lists them, and every ticket with its history. All values are raw, as the tracker reports them:
column ids, status keys and numeric priorities. `Catalog` turns them into names.
-/

namespace TicketTrail

/-- A column of a workboard; `sequence` orders columns from left to right. -/
structure Column where
  id : String
  name : String
  sequence : Int64 := 0
deriving Repr, DecidableEq

/-- A project, which is a workboard as well when it has columns. -/
structure Project where
  id : String
  name : String
  /-- Other names the project goes by. -/
  slugs : List String := []
  columns : List Column := []
deriving Repr, DecidableEq

/-- The statuses of a tracker: the keys of the open and the closed ones, each in workflow order, and
the display names of keys. -/
structure StatusList where
  openKeys : List String := []
  closedKeys : List String := []
  names : Dictionary String := Dictionary.empty
deriving Repr, DecidableEq

/-- What a change of a ticket changed. -/
inductive Change.Field where
  | status
  | priority
  /-- The column on one board. -/
  | column (board : String)
deriving Repr, DecidableEq

/-- A recorded change of a ticket: an event between raw values. -/
structure Change extends Event where
  field : Change.Field
deriving Repr, DecidableEq

/-- A ticket. -/
structure Ticket where
  id : UInt64
  title : String
  status : String
  priority : String
  createdAt : Instant
  updatedAt : Instant
  /-- The ids of the projects the ticket is tagged with. -/
  projects : List String := []
  /-- For each board the ticket is on, the id of its column there. -/
  columns : Dictionary String := Dictionary.empty
  history : List Change := []
deriving Repr, DecidableEq

/-- An export of the tracker. -/
structure Snapshot where
  projects : List Project := []
  statuses : Option StatusList := none
  tickets : List Ticket := []
deriving Repr, DecidableEq

namespace Ticket

/-- The short identifier of the ticket. -/
def monogram (ticket : Ticket) : String :=
  "T" ++ toString ticket.id.toNat

/-- The ids of the boards the ticket is on, in order. -/
def boards (ticket : Ticket) : List String :=
  ticket.columns.keys

/-- Some change of the ticket is a change of column. -/
def hasColumnHistory (ticket : Ticket) : Bool :=
  ticket.history.any fun change =>
    match change.field with
    | .column _ => true
    | _ => false

end Ticket

end TicketTrail
