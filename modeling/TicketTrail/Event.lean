import TicketTrail.Time.Instant

/-!
# Moves and events

A move takes a ticket from one state of an axis to the next; the move that put it into its first
state has no prior state. An event is a move with the time at which it was made. Patterns look at
moves only: when a move was made matters for showing a history, never for matching it.
-/

namespace TicketTrail

/-- A ticket's move from one state to the next. -/
structure Move where
  prior : Option String
  next : String
deriving Repr, DecidableEq

/-- The states at both ends of the move. -/
def Move.endpoints (m : Move) : List String :=
  m.prior.toList ++ [m.next]

/-- A move and the time at which it was made. -/
structure Event extends Move where
  time : Instant
deriving Repr, DecidableEq

namespace Event

/-- Puts events in order of time; events of one time keep their order. -/
def chronological (events : List Event) : List Event :=
  events.mergeSort fun a b => a.time.notAfter b.time

theorem mem_chronological {e : Event} {events : List Event} :
    e ∈ chronological events ↔ e ∈ events :=
  List.mem_mergeSort

end Event

end TicketTrail
