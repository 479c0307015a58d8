import TicketTrail.Catalog

/-!
# Trails

The trail of a ticket is its whole history as it is shown: every change by name and in order of
time, the column changes with the board they were made on.
-/

namespace TicketTrail

/-- A column change on the board with the given name. -/
structure BoardEvent extends Event where
  board : String
deriving Repr, DecidableEq

/-- The changes of a ticket, each list in order of time. -/
structure Trail where
  columns : List BoardEvent
  priority : List Event
  status : List Event
deriving Repr, DecidableEq

/-- The board on which a change was made, if it is a change of column. -/
def Change.board? (change : Change) : Option String :=
  match change.field with
  | .column board => some board
  | _ => none

/-- The boards the ticket is on, and after them those it was on, in the order of its history. -/
def Ticket.boardsEver (t : Ticket) : List String :=
  (t.boards ++ t.history.filterMap Change.board?).eraseDups

/-- Puts column changes in order of time; changes of one time keep their order. -/
def BoardEvent.chronological (events : List BoardEvent) : List BoardEvent :=
  events.mergeSort fun a b => a.time.notAfter b.time

namespace Catalog

/-- The column changes of a ticket on one board, with the name of the board. -/
def boardEvents (catalog : Catalog) (t : Ticket) (board : String) : List BoardEvent :=
  (catalog.columnEvents t board).map fun e => { e with board := catalog.projectName board }

/-- The trail of a ticket. Column changes of one time come board by board. -/
def trail (catalog : Catalog) (t : Ticket) : Trail where
  columns := BoardEvent.chronological (t.boardsEver.flatMap (catalog.boardEvents t))
  priority := Event.chronological (Catalog.priorityEvents t)
  status := Event.chronological (catalog.statusEvents t)

end Catalog

end TicketTrail
