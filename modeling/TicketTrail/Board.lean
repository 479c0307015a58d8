import TicketTrail.Pattern.Match

/-!
# Column patterns on workboards

A ticket can be on many workboards at once, each with its own columns. A column pattern is matched
on each board by itself, against the moves made on that board and the ranks of that board's columns,
and the ticket matches when one board does.

## Main results

* `matchBoards_append` — boards are matched independently of each other.
-/

namespace TicketTrail

/-- A ticket's column history on one board. -/
structure BoardHistory where
  board : String
  scale : Scale
  events : List Event
  current : Option String
deriving Repr, DecidableEq

/-- The moves of the history. -/
def BoardHistory.moves (history : BoardHistory) : List Move :=
  history.events.map Event.toMove

/-- A board on which a column pattern matched, and the place of that pattern in its set. -/
structure BoardMatch where
  board : String
  pattern : Nat
deriving Repr, DecidableEq

/-- The match of a set of column patterns on one board. -/
def BoardHistory.match? (set : PatternSet) (history : BoardHistory) : Option BoardMatch :=
  (set.findMatch? history.scale history.moves history.current).map fun found =>
    { board := history.board, pattern := found.index }

/-- The boards on which the pattern set matches, in the order given. -/
def matchBoards (set : PatternSet) (histories : List BoardHistory) : List BoardMatch :=
  histories.filterMap (BoardHistory.match? set)

/-- Boards are matched independently of each other. -/
theorem matchBoards_append (set : PatternSet) (xs ys : List BoardHistory) :
    matchBoards set (xs ++ ys) = matchBoards set xs ++ matchBoards set ys :=
  List.filterMap_append

end TicketTrail
