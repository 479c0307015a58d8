import TicketTrail.Console
import TicketTrail.SavedSearch.Format
import TicketTrail.Search.Filters

/-!
# Plans

A request to search comes to one plan, or when it names a file of saved searches to one plan for
each of them, in which the criteria of the request come before the saved ones. All plans are made
before the first of them is carried out, so a fault in any of them stops everything.
-/

namespace TicketTrail

/-- A search as it is asked for. -/
structure SearchRequest where
  criteria : Criteria := {}
  /-- A file of saved searches. -/
  template : Option String := none
deriving Repr, DecidableEq, Inhabited

/-- What stands above the hits of a saved search. -/
structure Heading where
  title : String
  description : Option String := none
deriving Repr, DecidableEq

/-- A search that is ready to be carried out. -/
structure Plan where
  heading : Option Heading := none
  filters : Filters
  showHistory : Bool := false
  showMetadata : Bool := false
deriving Repr, DecidableEq

/-- Why no plans can be made. -/
inductive PlanError where
  /-- The criteria of the request are refused. -/
  | request (cause : CriteriaError)
  /-- The criteria of the saved search with the given title are refused. -/
  | saved (title : String) (cause : CriteriaError)
  /-- The file of saved searches is refused. -/
  | file (cause : SavedSearchError)
deriving Repr, DecidableEq

/-- The error as it is told. -/
def PlanError.message : PlanError → String
  | request cause => cause.message
  | saved title cause => "Search '" ++ title ++ "': " ++ cause.message
  | file cause => cause.message

namespace Plan

/-- The plan for the given criteria. -/
def ofCriteria (now : Instant) (heading : Option Heading) (c : Criteria) :
    Except CriteriaError Plan := do
  if !c.any then throw .nothing
  let filters ← Filters.parse now c
  return { heading, filters, showHistory := c.showHistory, showMetadata := c.showMetadata }

/-- The plan for a saved search, with the criteria of the request before its own. -/
def ofSaved (now : Instant) (own : Criteria) (saved : SavedSearch) : Except PlanError Plan :=
  let heading := { title := saved.title, description := saved.description }
  (ofCriteria now (some heading) (own.withDefaults saved.criteria)).mapError (.saved saved.title)

end Plan

/-- The plans for a request. -/
def SearchRequest.plans (console : Console) (files : Files) (now : Instant)
    (request : SearchRequest) : Step PlanError (List Plan) :=
  match request.template with
  | none => .silent (((Plan.ofCriteria now none request.criteria).map fun p => [p]).mapError
      .request)
  | some path => do
    let saved ← .silent ((SavedSearch.load files path).mapError .file)
    .print (console.remark "search"
      ("Loaded " ++ toString saved.length ++ " search(es) from " ++ path))
    .silent (saved.mapM (Plan.ofSaved now request.criteria))

end TicketTrail
