/-!
# Saved searches

A saved search has a title, perhaps a description, and the criteria to search by. A file holds any
number of them; one without a title is named by its place in the file.
-/

namespace TicketTrail

/-- The criteria of a search, and what to show of each hit. -/
structure Criteria where
  column : Option String := none
  priority : Option String := none
  status : Option String := none
  tag : Option String := none
  query : Option String := none
  /-- The greatest age of a ticket in days, by its creation. -/
  createdAfter : Option UInt32 := none
  /-- The greatest age of a ticket in days, by its last update. -/
  updatedAfter : Option UInt32 := none
  showHistory : Bool := false
  showMetadata : Bool := false
deriving Repr, DecidableEq, Inhabited

namespace Criteria

/-- There is something to search by. -/
def any (c : Criteria) : Bool :=
  c.column.isSome || c.priority.isSome || c.status.isSome || c.tag.isSome || c.query.isSome ||
    c.createdAfter.isSome || c.updatedAfter.isSome

/-- The criteria `own`, with those of `saved` where there are none; what either shows is shown. -/
def withDefaults (own saved : Criteria) : Criteria where
  column := own.column <|> saved.column
  priority := own.priority <|> saved.priority
  status := own.status <|> saved.status
  tag := own.tag <|> saved.tag
  query := own.query <|> saved.query
  createdAfter := own.createdAfter <|> saved.createdAfter
  updatedAfter := own.updatedAfter <|> saved.updatedAfter
  showHistory := own.showHistory || saved.showHistory
  showMetadata := own.showMetadata || saved.showMetadata

end Criteria

/-- A search in a file. -/
structure SavedSearch where
  title : String
  description : Option String := none
  criteria : Criteria := {}
deriving Repr, DecidableEq

/-- The title of a search without one, by its place in the file. -/
def SavedSearch.defaultTitle (number : Nat) : String :=
  "Search " ++ toString number

end TicketTrail
