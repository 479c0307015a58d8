import TicketTrail.Text.Blank
import TicketTrail.Text.Lowercase

/-!
# Axes and directions

A ticket moves along a board's columns, along the priorities and along the statuses: the three
ordered axes. The projects it is tagged with form a fourth axis, which has no order.

Each ordered axis has two direction keywords. Which of them means "up in rank" is the axis' own
affair: a later column has a higher rank, and so has a later status, but the most urgent priority
has rank 0, so a priority that is raised goes down in rank.

## Main results

* `OrderedAxis.mem_directions_iff` — the two keywords of an axis are its two directions by rank;
* `OrderedAxis.keyword?_eq_some_iff` — a keyword is read as the direction it spells.
-/

namespace TicketTrail

/-- An axis whose states are ranked. -/
inductive OrderedAxis where
  | column
  | priority
  | status
deriving Repr, DecidableEq

/-- Any axis a pattern can be written for. -/
inductive Axis where
  | ordered (axis : OrderedAxis)
  | project
deriving Repr, DecidableEq

/-- A named movement between two ranked states. -/
inductive Direction where
  | forward
  | backward
  | raised
  | lowered
deriving Repr, DecidableEq

namespace Direction

/-- The word a pattern uses for the direction. -/
def keyword : Direction → String
  | forward => "forward"
  | backward => "backward"
  | raised => "raised"
  | lowered => "lowered"

theorem keyword_injective {d e : Direction} (h : d.keyword = e.keyword) : d = e := by
  cases d <;> cases e <;> simp_all [keyword]

end Direction

namespace OrderedAxis

/-- The name of the axis in messages and on the command line. -/
def name : OrderedAxis → String
  | column => "column"
  | priority => "priority"
  | status => "status"

/-- The direction of a move to a higher rank. -/
def upward : OrderedAxis → Direction
  | column => .forward
  | priority => .lowered
  | status => .raised

/-- The direction of a move to a lower rank. -/
def downward : OrderedAxis → Direction
  | column => .backward
  | priority => .raised
  | status => .lowered

/-- The directions a pattern on the axis may name, in the order in which messages list them. -/
def directions : OrderedAxis → List Direction
  | column => [.forward, .backward]
  | priority => [.raised, .lowered]
  | status => [.raised, .lowered]

/-- The direction of the axis that a keyword spells. -/
def keyword? (axis : OrderedAxis) (word : String) : Option Direction :=
  axis.directions.find? (·.keyword == word)

/-- The two directions of an axis are the one up in rank and the one down in rank. -/
theorem mem_directions_iff {axis : OrderedAxis} {d : Direction} :
    d ∈ axis.directions ↔ d = axis.upward ∨ d = axis.downward := by
  cases axis <;> simp [directions, upward, downward, or_comm]

theorem upward_ne_downward (axis : OrderedAxis) : axis.upward ≠ axis.downward := by
  cases axis <;> simp [upward, downward]

/-- A keyword is read as the direction of the axis that it spells. -/
theorem keyword?_eq_some_iff {axis : OrderedAxis} {word : String} {d : Direction} :
    axis.keyword? word = some d ↔ d ∈ axis.directions ∧ d.keyword = word := by
  constructor
  · intro h
    exact ⟨List.mem_of_find?_eq_some h, by simpa using List.find?_some h⟩
  · rintro ⟨hMem, rfl⟩
    cases axis <;> cases d <;> simp_all [directions, keyword?, Direction.keyword]

theorem keyword?_keyword {axis : OrderedAxis} {d : Direction} (h : d ∈ axis.directions) :
    axis.keyword? d.keyword = some d :=
  keyword?_eq_some_iff.mpr ⟨h, rfl⟩

end OrderedAxis

namespace Axis

/-- The name of the axis in messages and on the command line. -/
def name : Axis → String
  | ordered axis => axis.name
  | project => "project"

/-- Reads an axis name, whatever its case and the blanks around it. The column axis may be named in
the plural, and the project axis is also called `tag`. -/
def parse? (text : String) : Option Axis :=
  match Text.lower (Text.trim text) with
  | "column" | "columns" => some (.ordered .column)
  | "priority" => some (.ordered .priority)
  | "status" => some (.ordered .status)
  | "project" | "tag" => some .project
  | _ => none

/-- What is said of a text that names no axis. -/
def unknownMessage (text : String) : String :=
  "unknown axis '" ++ Text.lower (Text.trim text) ++
    "', expected one of: column, priority, status, project"

end Axis

end TicketTrail
