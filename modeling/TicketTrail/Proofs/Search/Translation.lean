import TicketTrail.Proofs.FirstFailure
import TicketTrail.Proofs.Search.Outcome
import TicketTrail.Proofs.Snapshot.RoundTrip

/-!
# Raw and translated exports

A search translates the values of tickets itself: priorities by their fixed names, and
statuses by the names that the snapshot lists. So it makes no difference whether an export
holds the raw values, the names, or some of each. The name of a priority is never a number
of one, so that translating it again changes nothing; the name of a status could be a key
with another name, and then it would be translated twice, so that case is left aside.

Two tickets of which one has names in place of values are told alike: whatever the search
takes from them — the values they have, the events of each field, the boards they were on
and the columns that are not known — comes out the same. From there on the two searches
are one.

Main results:

* `Catalog.valueName_eq_of_translates` — a value and its name have one name;
* `Catalog.alike_of_translates` — a ticket with names in place of values is told alike;
* `Search.evaluate_eq_of_alike`, `Plan.hit_eq_of_alike` — tickets that are told alike are
  found on the same grounds and shown alike;
* `Plan.executeAll_of_alike` — whole rows of searches print the same;
* `SearchRequest.run_eq_of_translates` — raw and translated exports give the same run.
-/

namespace TicketTrail

/-! ## Translating -/

/-- A value of a field may stand for another: a priority's name for the priority, and a
status's display name for its key, unless the name is itself a key with another name. A
key without a display name is its own. -/
inductive Change.Field.Translates (names : Dictionary String) :
    Change.Field → String → String → Prop where
  | kept (field : Change.Field) (v : String) : Translates names field v v
  | priority (v : String) : Translates names .priority v (priorityName v)
  | status {v name : String} (display : names.get? v = some name)
      (fixed : ∀ other, names.get? name = some other → other = name) :
      Translates names .status v name

/-- The second change is the first one with some of its values translated. -/
structure Change.Translates (names : Dictionary String) (c c' : Change) : Prop where
  field : c'.field = c.field
  time : c'.time = c.time
  prior : Option.Rel (c.field.Translates names) c.prior c'.prior
  next : c.field.Translates names c.next c'.next

/-- The second ticket is the first one with some of its statuses and priorities
translated. -/
structure Ticket.Translates (names : Dictionary String) (t t' : Ticket) : Prop where
  rest : t' = { t with status := t'.status, priority := t'.priority, history := t'.history }
  status : Change.Field.Translates names .status t.status t'.status
  priority : Change.Field.Translates names .priority t.priority t'.priority
  history : List.Forall₂ (Change.Translates names) t.history t'.history

namespace Snapshot

/-- The display names of the statuses. -/
def statusNames (s : Snapshot) : Dictionary String :=
  (s.statuses.map StatusList.names).getD Dictionary.empty

/-- The second snapshot is the first one with some of the statuses and priorities of its
tickets translated. -/
structure Translates (s s' : Snapshot) : Prop where
  rest : s' = { s with tickets := s'.tickets }
  tickets : List.Forall₂ (Ticket.Translates s.statusNames) s.tickets s'.tickets

end Snapshot

/-! ## Names of names -/

/-- No name of a priority is the number of one. -/
theorem priorityName_of_mem : ∀ entry ∈ priorityNames, priorityName entry.2 = entry.2 := by
  decide +kernel

/-- The name of a priority is its own name. -/
theorem priorityName_priorityName (v : String) :
    priorityName (priorityName v) = priorityName v := by
  cases hName : priorityNames.lookup (Text.trim v) with
  | none =>
    -- a value without a name stands for itself
    have hSame : priorityName v = v := by rw [priorityName, hName, Option.getD_none]
    rw [hSame, hSame]
  | some name =>
    have hNamed : priorityName v = name := by rw [priorityName, hName, Option.getD_some]
    obtain ⟨before, after, hSplit, -⟩ := List.lookup_eq_some_iff.mp hName
    rw [hNamed]
    exact priorityName_of_mem (Text.trim v, name) (by rw [hSplit]; simp)

namespace Catalog

variable {catalog : Catalog}

/-- The name of a value of a field. -/
def valueName (catalog : Catalog) : Change.Field → String → String
  | .status => catalog.statusName
  | .priority => priorityName
  | .column board => catalog.columnName board

/-- A value and what may stand for it have one name. -/
theorem valueName_eq_of_translates {field : Change.Field} {v v' : String}
    (h : field.Translates catalog.statusNames v v') :
    catalog.valueName field v' = catalog.valueName field v := by
  cases h with
  | kept => rfl
  | priority => exact priorityName_priorityName v
  | status display fixed =>
    -- the display name may be a key again, but then it is its own name
    show (catalog.statusNames.get? v').getD v' = (catalog.statusNames.get? v).getD v
    rw [display, Option.getD_some]
    cases hName : catalog.statusNames.get? v' with
    | none => rfl
    | some other => exact fixed other hName

/-- Prior values and what may stand for them have one name too, where they are recorded. -/
theorem map_valueName_of_translates {field : Change.Field} {prior prior' : Option String}
    (h : Option.Rel (field.Translates catalog.statusNames) prior prior') :
    prior'.map (catalog.valueName field) = prior.map (catalog.valueName field) := by
  cases h with
  | none => rfl
  | some h => exact congrArg some (valueName_eq_of_translates h)

/-! ## Changes -/

section Changes

variable {c c' : Change} (h : c.Translates catalog.statusNames c')

include h

/-- A change is told by the names of its values. -/
theorem rename_eq_of_translates :
    c'.toEvent.rename (catalog.valueName c.field) =
      c.toEvent.rename (catalog.valueName c.field) := by
  rw [Event.rename, Event.rename, map_valueName_of_translates h.prior,
    valueName_eq_of_translates h.next, h.time]

theorem board?_eq_of_translates : c'.board? = c.board? := by
  rw [Change.board?, Change.board?, h.field]

/-- The ids of columns are never translated. -/
theorem unknownColumnsOf_eq_of_translates :
    catalog.unknownColumnsOf c' = catalog.unknownColumnsOf c := by
  obtain ⟨⟨⟨prior, next⟩, time⟩, field⟩ := c
  obtain ⟨⟨⟨prior', next'⟩, time'⟩, field'⟩ := c'
  obtain ⟨rfl, rfl, hPrior, hNext⟩ := h
  cases field' with
  | status | priority => rfl
  | column board =>
    -- of a column only what was kept is related, so the two changes are one
    cases hNext
    cases hPrior with
    | none => rfl
    | some hPrior =>
      cases hPrior
      rfl

end Changes

/-- The changes of one field stand in the same places of both histories. -/
theorem events_of_translates {history history' : List Change}
    (h : List.Forall₂ (Change.Translates catalog.statusNames) history history')
    (field : Change.Field) :
    ((history'.filter (·.field == field)).map Change.toEvent).map
        (Event.rename (catalog.valueName field)) =
      ((history.filter (·.field == field)).map Change.toEvent).map
        (Event.rename (catalog.valueName field)) := by
  induction h with
  | nil => rfl
  | @cons c c' history history' hHead _ ih =>
    -- a change and its translation are of one field, so both are taken or neither is
    rw [List.filter_cons, List.filter_cons, hHead.field]
    split
    · next hField =>
      have hEvent := rename_eq_of_translates hHead
      rw [eq_of_beq hField] at hEvent
      rw [List.map_cons, List.map_cons, List.map_cons, List.map_cons, hEvent, ih]
    · exact ih

/-! ## Tickets -/

/-- The catalog tells no difference between the tickets: apart from their values they are
the same, and their values have the same names. -/
structure Alike (catalog : Catalog) (t t' : Ticket) : Prop where
  rest : t' = { t with status := t'.status, priority := t'.priority, history := t'.history }
  status : catalog.statusName t'.status = catalog.statusName t.status
  priority : priorityName t'.priority = priorityName t.priority
  events : ∀ field, (t'.changesOf field).map (Event.rename (catalog.valueName field)) =
    (t.changesOf field).map (Event.rename (catalog.valueName field))
  boards : t'.history.map Change.board? = t.history.map Change.board?
  unknown : catalog.unknownColumns t' = catalog.unknownColumns t

/-- A ticket with names in place of values is told alike. -/
theorem alike_of_translates {t t' : Ticket} (h : t.Translates catalog.statusNames t') :
    catalog.Alike t t' where
  rest := h.rest
  status := valueName_eq_of_translates h.status
  priority := valueName_eq_of_translates h.priority
  boards := (map_eq_of_forall₂ h.history fun _ _ hc => (board?_eq_of_translates hc).symm).symm
  unknown := by
    rw [unknownColumns, unknownColumns, List.flatMap_def, List.flatMap_def]
    exact congrArg List.flatten
      (map_eq_of_forall₂ h.history fun _ _ hc => (unknownColumnsOf_eq_of_translates hc).symm).symm
  events := events_of_translates h.history

section Alike

variable {t t' : Ticket} (h : catalog.Alike t t')

include h

theorem Alike.statusEvents : catalog.statusEvents t' = catalog.statusEvents t :=
  h.events .status

theorem Alike.priorityEvents : priorityEvents t' = priorityEvents t :=
  h.events .priority

theorem Alike.columnEvents (board : String) :
    catalog.columnEvents t' board = catalog.columnEvents t board :=
  h.events (.column board)

theorem Alike.columns : t'.columns = t.columns := by
  rw [h.rest]

theorem Alike.monogram : t'.monogram = t.monogram := by
  rw [h.rest]
  rfl

/-- Tickets that are told alike have column history alike; that needs the boards of the
changes only. -/
theorem Alike.hasColumnHistory : t'.hasColumnHistory = t.hasColumnHistory := by
  have hAny : ∀ t : Ticket,
      t.hasColumnHistory = (t.history.map Change.board?).any Option.isSome := by
    intro t
    rw [List.any_map, Ticket.hasColumnHistory]
    congr 1
    funext c
    rw [Function.comp_apply, Change.board?]
    cases c.field <;> rfl
  -- the boards of the changes were kept, and the test is about them alone
  rw [hAny, hAny, h.boards]

/-- The history of a board is told alike. -/
theorem Alike.boardHistory (board : String) :
    catalog.boardHistory t' board = catalog.boardHistory t board := by
  -- columns are not translated, so only the events need an argument
  rw [Catalog.boardHistory, Catalog.boardHistory, h.columnEvents, currentColumn?, currentColumn?,
    h.columns]

theorem Alike.boardsEver : t'.boardsEver = t.boardsEver := by
  have hChanged : t'.history.filterMap Change.board? = t.history.filterMap Change.board? := by
    have hBoards := congrArg (List.filterMap id) h.boards
    rwa [List.filterMap_map, List.filterMap_map] at hBoards
  rw [Ticket.boardsEver, Ticket.boardsEver, Ticket.boards, Ticket.boards, h.columns, hChanged]

theorem Alike.trail : catalog.trail t' = catalog.trail t := by
  have hEvents : catalog.boardEvents t' = catalog.boardEvents t :=
    funext fun board => by rw [boardEvents, boardEvents, h.columnEvents]
  rw [Catalog.trail, Catalog.trail, hEvents, h.boardsEver, h.priorityEvents, h.statusEvents]

end Alike

end Catalog

/-! ## Searches -/

/-- A ticket that is told alike is found on the same grounds. -/
theorem Search.evaluate_eq_of_alike {s : Search} {t t' : Ticket} (h : s.catalog.Alike t t') :
    s.evaluate t' = s.evaluate t := by
  have hBoards : s.matchedBoards? t' = s.matchedBoards? t := by
    have hCandidates : s.candidates t' = s.candidates t := by
      rw [candidates, candidates, Ticket.boards, Ticket.boards, h.columns]
    have hHistory : s.catalog.boardHistory t' = s.catalog.boardHistory t :=
      funext h.boardHistory
    simp only [matchedBoards?, boardMatches, Catalog.boardHistories, hCandidates, hHistory]
  have hPriority : (fun set => s.priorityMatch? set t') = fun set => s.priorityMatch? set t := by
    simp only [priorityMatch?, h.priorityEvents, h.priority]
  have hStatus : (fun set => s.statusMatch? set t') = fun set => s.statusMatch? set t := by
    simp only [statusMatch?, h.statusEvents, h.status]
  -- the other filters read nothing that is ever translated
  have hFilters : (s.passesQuery t' && s.passesCreated t' && s.passesUpdated t' &&
      s.passesTag t') = (s.passesQuery t && s.passesCreated t && s.passesUpdated t &&
        s.passesTag t) := by
    rw [h.rest]
    rfl
  rw [evaluate, evaluate, hBoards, hPriority, hStatus, hFilters]

namespace Plan

/-- A ticket that is told alike is shown alike. -/
theorem hit_eq_of_alike {plan : Plan} {catalog : Catalog} {t t' : Ticket}
    (h : catalog.Alike t t') (grounds : Grounds) :
    plan.hit catalog t' grounds = plan.hit catalog t grounds := by
  have hTitle : t'.title = t.title := by rw [h.rest]
  have hProjects : t'.projects = t.projects := by rw [h.rest]
  rw [hit, hit, h.monogram, hTitle, hProjects, h.status, h.priority, h.trail]

section Execute

variable {catalog : Catalog} {tickets tickets' : List Ticket}
  (h : List.Forall₂ catalog.Alike tickets tickets')

include h

/-- The same tickets are found, each on the same grounds. -/
theorem found_of_alike {s : Search} (hCatalog : s.catalog = catalog) :
    List.Forall₂ (fun p p' => catalog.Alike p.1 p'.1 ∧ p'.2 = p.2) (found s tickets)
      (found s tickets') := by
  subst hCatalog
  refine List.rel_filterMap (fun t t' ht => ?_) h
  rw [Search.evaluate_eq_of_alike ht]
  cases s.evaluate t with
  | none => exact .none
  | some grounds => exact .some ⟨ht, rfl⟩

/-- The remarks name tickets without column history, and these are the same tickets. -/
theorem historyRemarks_of_alike (plan : Plan) :
    plan.historyRemarks tickets' = plan.historyRemarks tickets := by
  have hOf : List.Forall₂ catalog.Alike (tickets.filter (!·.hasColumnHistory))
      (tickets'.filter (!·.hasColumnHistory)) :=
    List.rel_filter (fun t t' ht => by simp only [ht.hasColumnHistory]) h
  rw [historyRemarks, historyRemarks]
  congr 1
  exact (map_eq_of_forall₂ hOf fun t t' ht => by rw [ht.monogram]).symm

/-- The same columns are not known. -/
theorem strangeColumns_of_alike (plan : Plan) :
    plan.strangeColumns catalog tickets' = plan.strangeColumns catalog tickets := by
  rw [strangeColumns, strangeColumns, List.flatMap_def, List.flatMap_def,
    map_eq_of_forall₂ h fun t t' ht => ht.unknown.symm]

end Execute

section Run

variable {catalog : Catalog} {snapshot snapshot' : Snapshot}
  (h : List.Forall₂ catalog.Alike snapshot.tickets snapshot'.tickets)

include h

/-- A plan prints the same and finds the same. -/
theorem execute_of_alike (console : Console) (plan : Plan) :
    plan.execute console snapshot' catalog = plan.execute console snapshot catalog := by
  rw [execute, execute]
  cases hSearch : plan.search catalog with
  | error e => rfl
  | ok s =>
    have hCatalog : s.catalog = catalog := by
      obtain ⟨tag, -, hEq⟩ := bind_eq_ok_iff.mp hSearch
      cases hEq
      rfl
    -- what is printed from here on depends on what is found, ticket by ticket
    have hFound := found_of_alike h hCatalog
    have hTickets : List.Forall₂ catalog.Alike ((found s snapshot.tickets).map Prod.fst)
        ((found s snapshot'.tickets).map Prod.fst) :=
      List.rel_map (fun _ _ hp => hp.1) hFound
    have hHits : ∀ shown : Ticket × Grounds → Hit,
        (∀ t grounds, shown (t, grounds) = plan.hit catalog t grounds) →
          (found s snapshot'.tickets).map shown = (found s snapshot.tickets).map shown := by
      intro shown hShown
      refine (map_eq_of_forall₂ hFound fun p p' hp => ?_).symm
      obtain ⟨t, grounds⟩ := p
      obtain ⟨t', grounds'⟩ := p'
      obtain ⟨hAlike, rfl⟩ := hp
      rw [hShown, hShown, hit_eq_of_alike hAlike]
    have hBind : ∀ next : Search → Step UnresolvedProject (List Hit),
        (Step.silent (.ok s) >>= next) = next s := fun _ => rfl
    rw [hBind, hBind]
    dsimp only
    rw [historyRemarks_of_alike h, strangeColumns_of_alike hTickets,
      hHits _ fun _ _ => rfl, hFound.length_eq, h.length_eq]

/-- **A row of searches** prints the same and comes to the same. -/
theorem executeAll_of_alike (console : Console) (isFirst : Bool) (plans : List Plan) :
    executeAll console snapshot' catalog isFirst plans =
      executeAll console snapshot catalog isFirst plans := by
  -- one plan after another, all of them on the two snapshots
  induction plans generalizing isFirst with
  | nil => rfl
  | cons plan rest ih => rw [executeAll, executeAll, execute_of_alike h, ih]

end Run

end Plan

/-! ## Runs -/

namespace Snapshot

variable {s s' : Snapshot} (h : s.Translates s')

include h

/-- A catalog reads nothing of the tickets, so the translation does not reach it. -/
theorem Translates.catalog (settings : Settings) :
    Catalog.ofSnapshot s' settings = Catalog.ofSnapshot s settings := by
  rw [h.rest]
  rfl

/-- All tickets of a translated snapshot are told alike, each with its own. -/
theorem Translates.alike (settings : Settings) :
    List.Forall₂ (Catalog.ofSnapshot s settings).Alike s.tickets s'.tickets :=
  h.tickets.imp fun _ _ ht => Catalog.alike_of_translates ht

end Snapshot

namespace SearchRequest

/-- The plans depend on no file but that of the saved searches. -/
theorem plans_congr (console : Console) {files files' : Files} (now : Instant)
    {request : SearchRequest}
    (h : ∀ template ∈ request.template, files'.read template = files.read template) :
    request.plans console files' now = request.plans console files now := by
  rw [plans, plans]
  cases hTemplate : request.template with
  | none => rfl
  | some template =>
    dsimp only
    rw [SavedSearch.load, SavedSearch.load, h template hTemplate]

/-- What a run does once the snapshot is loaded. -/
def onSnapshot (console : Console) (settings : Settings) (plans : List Plan)
    (snapshot : Snapshot) : Step SearchError Unit := do
  .print (console.warnings (sizeWarnings snapshot))
  (Plan.executeAll console snapshot (Catalog.ofSnapshot snapshot settings) true plans).mapError
    .unresolved

/-- What a run does before the snapshot is loaded does not depend on it, and the rest is
`onSnapshot`. -/
theorem carryOut_eq_onSnapshot (console : Console) {files : Files} (settings : Settings)
    {path : String} {snapshot : Snapshot} (hLoad : Snapshot.load files path = .ok snapshot)
    (plans : List Plan) :
    carryOut console files settings (some path) plans = (do
      .print (console.remarks "search" (plans.map fun plan => "Filters: " ++ plan.filters.describe))
      .print (console.remark "search" ("Loading snapshot: " ++ path))
      onSnapshot console settings plans snapshot) := by
  have hPath : carryOut console files settings (some path) plans = (do
      .print (console.remarks "search" (plans.map fun plan => "Filters: " ++ plan.filters.describe))
      .print (console.remark "search" ("Loading snapshot: " ++ path))
      .silent ((Snapshot.load files path).mapError .snapshot) >>=
        onSnapshot console settings plans) := rfl
  rw [hPath, hLoad]
  rfl

/-- On the translated snapshot the second part is the same. -/
theorem onSnapshot_of_translates (console : Console) (settings : Settings) (plans : List Plan)
    {s s' : Snapshot} (h : s.Translates s') :
    onSnapshot console settings plans s' = onSnapshot console settings plans s := by
  have hAlike := h.alike settings
  rw [onSnapshot, onSnapshot, h.catalog, Plan.executeAll_of_alike hAlike, sizeWarnings,
    sizeWarnings, hAlike.length_eq]

/-- **Raw and translated exports give the same search.** -/
theorem run_eq_of_translates (console : Console) (files files' : Files) (now : Instant)
    (settings : Settings) (path : String) (request : SearchRequest) (s s' : Snapshot)
    (hTemplate : ∀ template ∈ request.template, files'.read template = files.read template)
    (hLoad : Snapshot.load files path = .ok s) (hLoad' : Snapshot.load files' path = .ok s')
    (h : s.Translates s') :
    request.run console files' now settings (some path) =
      request.run console files now settings (some path) := by
  -- the plans are the same as well, so the runs part nowhere
  have hCarry : carryOut console files' settings (some path) =
      carryOut console files settings (some path) := by
    funext plans
    rw [carryOut_eq_onSnapshot console settings hLoad,
      carryOut_eq_onSnapshot console settings hLoad',
      onSnapshot_of_translates console settings plans h]
  rw [run_eq_bind, run_eq_bind, plans_congr console now hTemplate, hCarry]

/-- An export with one ticket, whose priority was raised and whose work was begun. -/
def exportOf (status priority : String) (raised begun : Move) : Snapshot where
  statuses := some {
    openKeys := ["open", "wip"]
    names := Dictionary.ofList [("open", "Open"), ("wip", "In Progress")] }
  tickets := [{
    id := 7
    title := "Tea"
    status
    priority
    createdAt := .earliest
    updatedAt := .earliest
    history := [
      { raised with time := .earliest, field := .priority },
      { begun with time := .earliest, field := .status }] }]

/-- The export with raw values. -/
def rawExport : Snapshot :=
  exportOf "wip" " 80 " ⟨some "50", "80"⟩ ⟨some "open", "wip"⟩

/-- The export with names in place of some of the values. -/
def mixedExport : Snapshot :=
  exportOf "In Progress" " 80 " ⟨some "Normal", "80"⟩ ⟨some "open", "In Progress"⟩

/-- Every file is the snapshot, as it is written. -/
def filesOf (s : Snapshot) : Files where
  read _ := .ok s.toJson.text

theorem load_filesOf (s : Snapshot) (path : String) : Snapshot.load (filesOf s) path = .ok s := by
  rw [Snapshot.load, filesOf]
  simp only [s.parse_text]
  rfl

theorem translates_mixedExport : rawExport.Translates mixedExport := by
  have hWip : Change.Field.Translates rawExport.statusNames .status "wip" "In Progress" :=
    .status rfl (by decide)
  have hNormal : Change.Field.Translates rawExport.statusNames .priority "50" "Normal" :=
    .priority "50"
  refine ⟨rfl, .cons ⟨rfl, hWip, .kept _ _, ?_⟩ .nil⟩
  exact .cons ⟨rfl, rfl, .some hNormal, .kept _ _⟩ (.cons ⟨rfl, rfl, .some (.kept _ _), hWip⟩ .nil)

/-- The request for tickets in progress whose priority was raised, with all there is to
show. -/
def inProgress : SearchRequest where
  criteria := {
    status := some "in:In Progress"
    priority := some "raised"
    showHistory := true
    showMetadata := true }

/-- Some values are raw and some are names, in the ticket and in its history, and all that
can be shown is shown. -/
theorem run_eq_of_translates_mixed :
    rawExport.Translates mixedExport ∧
      inProgress.run {} (filesOf mixedExport) .earliest {} (some "export.json") =
        inProgress.run {} (filesOf rawExport) .earliest {} (some "export.json") ∧
      (inProgress.run {} (filesOf rawExport) .earliest {} (some "export.json")).outcome =
        (.ok (), ["T7  In Progress  High  Tea", "    matched priority: raised",
          "    matched status: in:In Progress", "    priority: Normal -> High (-262143-01-01)",
          "    status: Open -> In Progress (-262143-01-01)", "", "Found 1 task(s)"]) := by
  refine ⟨translates_mixedExport, ?_, ?_⟩
  · exact run_eq_of_translates {} (filesOf rawExport) (filesOf mixedExport) .earliest {}
      "export.json" inProgress rawExport mixedExport nofun (load_filesOf _ _) (load_filesOf _ _)
      translates_mixedExport
  · have hAsked : inProgress.searches (filesOf rawExport) = .ok [⟨none, inProgress.criteria⟩] := rfl
    have hResolves : ∀ s ∈ [AskedSearch.mk none inProgress.criteria],
        s.Resolves (Catalog.ofSnapshot rawExport {}) := by
      unfold AskedSearch.Resolves
      decide
    rw [run_of_resolves {} .earliest {} hAsked (by decide) (load_filesOf _ _) hResolves]
    refine Prod.ext rfl ?_
    decide +kernel

end SearchRequest

end TicketTrail
