import TicketTrail.Search.Hit
import TicketTrail.Search.Plan

/-!
# Searching

A search makes its plans, loads the snapshot and carries out one plan after another. Each plan
prints its hits before the next one is begun, so what an earlier plan found stays printed when a
later one fails.

## Main results

* `Plan.executeAll_cons_ok`, `Plan.executeAll_cons_error` — what carrying out a row of plans prints,
  by what its first plan comes to.
-/

namespace TicketTrail

/-- Why a search fails. -/
inductive SearchError where
  | plan (cause : PlanError)
  /-- No snapshot is named. -/
  | noSnapshot
  | snapshot (cause : SnapshotError)
  /-- A name in a tag stands for no project. -/
  | unresolved (cause : UnresolvedProject)
deriving Repr, DecidableEq

/-- The error as it is told. -/
def SearchError.message : SearchError → String
  | plan cause => cause.message
  | noSnapshot =>
    "No snapshot given; pass --snapshot, set TQ_SNAPSHOT or set 'snapshot' in config.toml"
  | snapshot cause => cause.message
  | unresolved cause => cause.message

/-- More tickets than this are worth a warning. -/
def manyTickets : Nat := 1000

namespace Plan

/-- The ticket as the plan shows it. -/
def hit (plan : Plan) (catalog : Catalog) (t : Ticket) (grounds : Grounds) : Hit where
  id := t.monogram
  title := t.title
  status := catalog.statusName t.status
  priority := priorityName t.priority
  projects := t.projects.map catalog.projectName
  grounds := if plan.showMetadata then some grounds else none
  trail := if plan.showHistory then some (catalog.trail t) else none

/-- The plan's filters against a catalog, if the names in its tag stand for projects. -/
def search (plan : Plan) (catalog : Catalog) : Except UnresolvedProject Search := do
  let tag ← plan.filters.tag.mapM fun tag => tag.resolve catalog.resolve
  return { filters := plan.filters, catalog, tag }

/-- The tickets that the plan finds, each with its grounds. -/
def found (s : Search) (tickets : List Ticket) : List (Ticket × Grounds) :=
  tickets.filterMap fun t => (s.evaluate t).map fun grounds => (t, grounds)

/-- The plan's column patterns look at the history only. -/
def needsColumnHistory (plan : Plan) : Bool :=
  plan.filters.column.any fun set => !set.conditions.any fun c => c.kind.isCurrentOnly

/-- What is remarked on tickets without a history that the plan could look at. -/
def historyRemarks (plan : Plan) (tickets : List Ticket) : List String :=
  if plan.needsColumnHistory then
    (tickets.filter (!·.hasColumnHistory)).map fun t =>
      t.monogram ++ " has no column history; only negated and never: conditions can hold"
  else []

/-- The column ids in the histories of tickets that are no columns of the snapshot, as a sorted
set. They are of interest when the plan looks at columns or shows them. -/
def strangeColumns (plan : Plan) (catalog : Catalog) (tickets : List Ticket) : List String :=
  if plan.filters.column.isSome || plan.showHistory then
    Text.sortedSet (tickets.flatMap catalog.unknownColumns)
  else []

/-- Carries out the plan. -/
def execute (console : Console) (snapshot : Snapshot) (catalog : Catalog) (plan : Plan) :
    Step UnresolvedProject (List Hit) := do
  let s ← .silent (plan.search catalog)
  .print (console.remarks "search" (s.tag.toList.map fun tag =>
    "Tag resolved to " ++ toString tag.allIds.length ++ " project(s)"))
  .print (console.remarks "search" (plan.historyRemarks snapshot.tickets))
  let found := found s snapshot.tickets
  .print (console.warnings ((plan.strangeColumns catalog (found.map Prod.fst)).map fun id =>
    "Column '" ++ id ++ "' is not on any board in the snapshot; kept as its id"))
  .print (console.remark "search"
    ("Found " ++ toString found.length ++ " matches out of " ++
      toString snapshot.tickets.length ++ " tasks"))
  return found.map fun (t, grounds) => plan.hit catalog t grounds

/-- The lines above the hits; all but the first heading have an empty line before them. -/
def headingLines (isFirst : Bool) (heading : Heading) : List String :=
  (if isFirst then [] else [""]) ++ ["== " ++ heading.title ++ " =="] ++ heading.description.toList

/-- The hits of the plan as they are printed. -/
def report (console : Console) (isFirst : Bool) (plan : Plan) (hits : List Hit) : Transcript :=
  match plan.heading with
  | none => console.report (Hit.allLines hits) (Hit.allToJson hits)
  | some heading =>
    console.report (headingLines isFirst heading ++ Hit.allLines hits)
      (Json.sortKeys (.object [("title", .string heading.title),
        ("description", .ofOption heading.description), ("tasks", Hit.allToJson hits)]))

/-- Carries out plans one after another. -/
def executeAll (console : Console) (snapshot : Snapshot) (catalog : Catalog) (isFirst : Bool) :
    List Plan → Step UnresolvedProject Unit
  | [] => return ()
  | plan :: rest => do
    let hits ← plan.execute console snapshot catalog
    .print (plan.report console isFirst hits)
    executeAll console snapshot catalog false rest

/-- A plan that succeeds prints its hits after its notices, and the next plan is begun. -/
theorem executeAll_cons_ok {console : Console} {snapshot : Snapshot} {catalog : Catalog}
    {isFirst : Bool} {plan : Plan} {rest : List Plan} {t : Transcript} {hits : List Hit}
    (h : plan.execute console snapshot catalog = ⟨t, .ok hits⟩) :
    executeAll console snapshot catalog isFirst (plan :: rest) =
      ⟨t ++ (plan.report console isFirst hits ++
        (executeAll console snapshot catalog false rest).printed),
        (executeAll console snapshot catalog false rest).result⟩ := by
  rw [executeAll, h]
  rfl

/-- A plan that fails ends the run, and prints no hits. -/
theorem executeAll_cons_error {console : Console} {snapshot : Snapshot} {catalog : Catalog}
    {isFirst : Bool} {plan : Plan} {rest : List Plan} {t : Transcript} {e : UnresolvedProject}
    (h : plan.execute console snapshot catalog = ⟨t, .error e⟩) :
    executeAll console snapshot catalog isFirst (plan :: rest) = ⟨t, .error e⟩ := by
  rw [executeAll, h]
  rfl

end Plan

/-- What is warned of before tickets are filtered. -/
def sizeWarnings (snapshot : Snapshot) : List String :=
  if manyTickets < snapshot.tickets.length then
    ["Filtering " ++ toString snapshot.tickets.length ++
      " tasks; every ticket's history is evaluated"]
  else []

/-- Carries out a request to search the snapshot at a path. -/
def SearchRequest.run (console : Console) (files : Files) (now : Instant) (settings : Settings)
    (path : Option String) (request : SearchRequest) : Step SearchError Unit := do
  let plans ← (request.plans console files now).mapError .plan
  .print (console.remarks "search" (plans.map fun plan => "Filters: " ++ plan.filters.describe))
  let path ← .silent (match path with
    | some path => .ok path
    | none => .error .noSnapshot)
  .print (console.remark "search" ("Loading snapshot: " ++ path))
  let snapshot ← .silent ((Snapshot.load files path).mapError .snapshot)
  .print (console.warnings (sizeWarnings snapshot))
  (Plan.executeAll console snapshot (Catalog.ofSnapshot snapshot settings) true plans).mapError
    .unresolved

end TicketTrail
