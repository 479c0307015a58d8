import TicketTrail.Pattern.Parser
import TicketTrail.Project.Pattern
import TicketTrail.SavedSearch
import TicketTrail.Time.Rfc3339

/-!
# Filters

The filters of a search are its criteria, read: patterns in place of their texts and instants in
place of ages. The tag `*` asks for nothing.
-/

namespace TicketTrail

/-- What a ticket must pass to be a hit. -/
structure Filters where
  column : Option PatternSet := none
  priority : Option PatternSet := none
  status : Option PatternSet := none
  tag : Option ProjectPatternSet := none
  /-- A text that must occur in the title, in lower case. -/
  query : Option String := none
  createdSince : Option Instant := none
  updatedSince : Option Instant := none
deriving Repr, DecidableEq

/-- Why criteria are refused. -/
inductive CriteriaError where
  /-- There is nothing to search by. -/
  | nothing
  | tag (text : String) (cause : PatternError)
  | pattern (axis : OrderedAxis) (text : String) (cause : PatternError)
deriving Repr, DecidableEq

/-- What is said of the text of a flag that is no pattern. -/
def invalidFlag (flag text : String) (cause : PatternError) : String :=
  "Invalid --" ++ flag ++ " pattern '" ++ text ++ "': " ++ cause.message

/-- The error as it is told. -/
def CriteriaError.message : CriteriaError → String
  | nothing => "No search criteria specified"
  | tag text cause => invalidFlag "tag" text cause
  | pattern axis text cause => invalidFlag axis.name text cause

namespace Filters

/-- Reads a tag; `*` is no filter. Blanks around a tag do not matter. -/
def parseTag (text : String) : Except CriteriaError (Option ProjectPatternSet) :=
  let trimmed := Text.trim text
  if trimmed == "*" then .ok none
  else ((ProjectPatternSet.parse trimmed).map some).mapError (.tag trimmed)

/-- Reads a pattern of an ordered axis. -/
def parsePattern (axis : OrderedAxis) (text : String) : Except CriteriaError PatternSet :=
  (PatternSet.parse axis text).mapError (.pattern axis text)

/-- Reads criteria, at the given time. Of several faults the first one is reported, the tag before
the column, the priority and the status. -/
def parse (now : Instant) (c : Criteria) : Except CriteriaError Filters := do
  let tag ← c.tag.mapM parseTag
  let column ← c.column.mapM (parsePattern .column)
  let priority ← c.priority.mapM (parsePattern .priority)
  let status ← c.status.mapM (parsePattern .status)
  return {
    column, priority, status
    tag := tag.join
    query := c.query.map Text.lower
    createdSince := c.createdAfter.map fun days => now.daysEarlier days.toNat
    updatedSince := c.updatedAfter.map fun days => now.daysEarlier days.toNat }

/-- A filter as it is described: its name, and its value in quotes. -/
def quoted (name value : String) : String :=
  name ++ "='" ++ value ++ "'"

/-- The filters as they are described. -/
def describe (f : Filters) : String :=
  let parts := [
    f.tag.map fun tag => quoted "tag" tag.text,
    f.query.map (quoted "query"),
    f.createdSince.map fun since => "created-after=" ++ since.dateText,
    f.updatedSince.map fun since => "updated-after=" ++ since.dateText,
    f.column.map fun set => quoted "column" set.text,
    f.priority.map fun set => quoted "priority" set.text,
    f.status.map fun set => quoted "status" set.text]
  String.intercalate ", " (parts.filterMap id)

end Filters

end TicketTrail
