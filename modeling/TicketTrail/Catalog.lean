import TicketTrail.Board
import TicketTrail.Project.Resolution
import TicketTrail.Settings
import TicketTrail.Snapshot

/-!
# The catalog

The catalog of a snapshot holds every scale that a search uses, one for each board's columns, one
for the priorities and one for the statuses, and translates the raw values in a ticket into the
names that patterns are written with. A value without a name stands for itself.
-/

namespace TicketTrail

/-- The event with its states renamed. -/
def Event.rename (f : String → String) (e : Event) : Event :=
  { prior := e.prior.map f, next := f e.next, time := e.time }

/-- The numeric priorities of the tracker and their names. -/
def priorityNames : List (String × String) :=
  [("100", "Unbreak Now!"), ("90", "Triage"), ("80", "High"), ("50", "Normal"), ("25", "Low"),
    ("0", "Wishlist")]

/-- The name of a priority; blanks around the number do not matter. -/
def priorityName (value : String) : String :=
  (priorityNames.lookup (Text.trim value)).getD value

/-- The columns of one workboard and their ranks. -/
structure Workboard where
  id : String
  columns : List Column
  scale : Scale
deriving Repr, DecidableEq

namespace Workboard

/-- The workboard of a project. Columns are ranked by their sequence under their exact names. -/
def ofProject (p : Project) : Workboard where
  id := p.id
  columns := p.columns
  scale := ⟨.column, .ofPairs .exact (p.columns.map fun c => (c.name, c.sequence.toInt))⟩

/-- The column with the given id; of two columns with one id the later one counts. -/
def column? (board : Workboard) (columnId : String) : Option Column :=
  board.columns.reverse.find? (·.id == columnId)

/-- The name of a column, or its id when the board has no such column. -/
def columnName (board : Workboard) (columnId : String) : String :=
  ((board.column? columnId).map Column.name).getD columnId

/-- The board has a column with the given id. -/
def knowsColumn (board : Workboard) (columnId : String) : Bool :=
  (board.column? columnId).isSome

end Workboard

/-- What is known of a tracker. -/
structure Catalog where
  projects : List Project
  /-- The projects with columns, the last one first. -/
  boards : List Workboard
  status : Scale
  priority : Scale
  statusNames : Dictionary String
deriving Repr, DecidableEq

namespace StatusList

/-- The display name of a status, or its key when it has none. -/
def displayName (statuses : StatusList) (key : String) : String :=
  (statuses.names.get? key).getD key

/-- The display names of all listed statuses, the open ones before the closed ones. -/
def order (statuses : StatusList) : List String :=
  (statuses.openKeys ++ statuses.closedKeys).map statuses.displayName

/-- The ranks of the listed statuses; when none is listed, the fallback ranks. -/
def ranks (statuses : StatusList) : RankTable :=
  if statuses.order.isEmpty then .fallbackStatus else .ofOrder .ignoreCase statuses.order

end StatusList

namespace Settings

/-- The ranks of the statuses of a tracker that does not list them. -/
def statusRanks (settings : Settings) : RankTable :=
  if settings.statusOrder.isEmpty then .fallbackStatus
  else .ofOrder .ignoreCase settings.statusOrder

/-- The ranks of the priorities. -/
def priorityRanks (settings : Settings) : RankTable :=
  if settings.priorityOrder.isEmpty then .builtinPriority
  else .ofOrder .ignoreCase settings.priorityOrder

end Settings

namespace Project

/-- The names a project is found by, in lower case. -/
def aliases (p : Project) : List String :=
  Text.lower p.name :: (p.slugs.filter (!·.isEmpty)).map Text.lower

end Project

/-- The changes of one field of a ticket, in the order in which they were recorded. -/
def Ticket.changesOf (ticket : Ticket) (field : Change.Field) : List Event :=
  (ticket.history.filter (·.field == field)).map Change.toEvent

namespace Catalog

/-- The catalog of a snapshot. What the snapshot lists comes before what the settings say. -/
def ofSnapshot (snapshot : Snapshot) (settings : Settings) : Catalog where
  projects := snapshot.projects
  boards := ((snapshot.projects.filter (!·.columns.isEmpty)).map Workboard.ofProject).reverse
  status := ⟨.status, (snapshot.statuses.map StatusList.ranks).getD settings.statusRanks⟩
  priority := ⟨.priority, settings.priorityRanks⟩
  statusNames := (snapshot.statuses.map StatusList.names).getD Dictionary.empty

/-- The board with the given id; of two boards with one id the later one counts. -/
def board? (catalog : Catalog) (id : String) : Option Workboard :=
  catalog.boards.find? (·.id == id)

/-- The scale of a board's columns; a board that is not in the snapshot ranks nothing. -/
def boardScale (catalog : Catalog) (board : String) : Scale :=
  ((catalog.board? board).map Workboard.scale).getD (.plain .column)

/-- The name of the first project with the given id. -/
def projectName? (catalog : Catalog) (id : String) : Option String :=
  (catalog.projects.find? (·.id == id)).map Project.name

/-- The name of a project, or its id when there is no such project. -/
def projectName (catalog : Catalog) (id : String) : String :=
  (catalog.projectName? id).getD id

/-- The display name of a status. -/
def statusName (catalog : Catalog) (value : String) : String :=
  (catalog.statusNames.get? value).getD value

/-- The name of a board's column. -/
def columnName (catalog : Catalog) (board columnId : String) : String :=
  match catalog.board? board with
  | some b => b.columnName columnId
  | none => columnId

/-- The board is in the snapshot and has a column with the given id. -/
def knowsColumn (catalog : Catalog) (board columnId : String) : Bool :=
  (catalog.board? board).any fun b => b.knowsColumn columnId

/-- The ids of the projects that a name or a glob stands for, each once. The text `*` stands for all
of them. -/
def resolve (catalog : Catalog) (name : String) : List String :=
  let hits := catalog.projects.filter fun p =>
    name == "*" || (ProjectName.mk name).matchesAny p.aliases
  (hits.map Project.id).eraseDups

/-! ## Tickets -/

/-- The status changes of a ticket, by name. -/
def statusEvents (catalog : Catalog) (ticket : Ticket) : List Event :=
  (ticket.changesOf .status).map (Event.rename catalog.statusName)

/-- The priority changes of a ticket, by name. -/
def priorityEvents (ticket : Ticket) : List Event :=
  (ticket.changesOf .priority).map (Event.rename priorityName)

/-- The column changes of a ticket on one board, by name. -/
def columnEvents (catalog : Catalog) (ticket : Ticket) (board : String) : List Event :=
  (ticket.changesOf (.column board)).map (Event.rename (catalog.columnName board))

/-- The name of the column a ticket is in on a board. -/
def currentColumn? (catalog : Catalog) (ticket : Ticket) (board : String) : Option String :=
  (ticket.columns.get? board).map (catalog.columnName board)

/-- The ids in one change that are no columns of the board it was made on. -/
def unknownColumnsOf (catalog : Catalog) (change : Change) : List String :=
  match change.field with
  | .column board => change.endpoints.filter fun id => !catalog.knowsColumn board id
  | _ => []

/-- The column ids in a ticket's history that are no columns of the board they were recorded for. -/
def unknownColumns (catalog : Catalog) (ticket : Ticket) : List String :=
  ticket.history.flatMap catalog.unknownColumnsOf

/-- A ticket's column history on one board. -/
def boardHistory (catalog : Catalog) (ticket : Ticket) (board : String) : BoardHistory where
  board
  scale := catalog.boardScale board
  events := catalog.columnEvents ticket board
  current := catalog.currentColumn? ticket board

/-- A ticket's column histories on the given boards. -/
def boardHistories (catalog : Catalog) (ticket : Ticket) (boards : List String) :
    List BoardHistory :=
  boards.map (catalog.boardHistory ticket)

end Catalog

end TicketTrail
