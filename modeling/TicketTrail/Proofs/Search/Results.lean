import Mathlib.Data.List.Infix
import Mathlib.Tactic.MkIffOfInductiveProp
import TicketTrail.Proofs.Project.Resolution
import TicketTrail.Proofs.Search.Criteria
import TicketTrail.Proofs.Search.Operators
import TicketTrail.Search.Run

/-!
# What a search finds

A plan reads one ticket after another and drops it at the first filter it fails;
the tag, once resolved, also changes the boards on which columns are looked at. This
module says what comes out of that without the order: a ticket is found when it
passes each filter by itself (`Filters.Passed`), and what is told of it is told by
the filter concerned (`Filters.grounds`).

Main results:

* `Filters.evaluate_against_eq_some_iff` — one ticket, under filters whose tag has
  been resolved;
* `Plan.execute_result` — the hits of a plan, over all tickets;
* `Plan.execute_finds_passed` — the same with what the grounds hold, and for
  tickets put one after another.
-/

namespace TicketTrail

/-! ## Passing a filter -/

namespace Catalog

variable (catalog : Catalog) (t : Ticket)

/-- The pattern holds of the ticket's column history on a board. -/
def columnHolds (board : String) (p : Pattern) : Bool :=
  p.holds (catalog.boardScale board) ((catalog.columnEvents t board).map Event.toMove)
    (catalog.currentColumn? t board)

/-- The pattern holds of the ticket's priority history. -/
def priorityHolds (p : Pattern) : Bool :=
  p.holds catalog.priority ((priorityEvents t).map Event.toMove) (some (priorityName t.priority))

/-- The pattern holds of the ticket's status history. -/
def statusHolds (p : Pattern) : Bool :=
  p.holds catalog.status ((catalog.statusEvents t).map Event.toMove)
    (some (catalog.statusName t.status))

end Catalog

namespace Filters

variable (f : Filters) (catalog : Catalog) (t : Ticket)

/-- The boards on which columns are looked at: all that a name in the tag stands for,
in order of their ids, or without a tag those the ticket is on. -/
def candidates : List String :=
  match f.tag with
  | some tag => Text.sortedSet (tag.names.flatMap fun name => catalog.resolve name.raw)
  | none => t.boards

/-- The ticket passes every filter there is, each of them by itself. -/
@[mk_iff]
structure Passed : Prop where
  query : ∀ query ∈ f.query, query.toList <:+: (Text.lower t.title).toList
  created : ∀ since ∈ f.createdSince, t.createdAt.isBefore since = false
  updated : ∀ since ∈ f.updatedSince, t.updatedAt.isBefore since = false
  tag : ∀ tag ∈ f.tag, ∃ p ∈ tag.patterns.toList, ∀ name ∈ p.names.toList,
    ∃ id ∈ catalog.resolve name.raw, id ∈ t.projects
  column : ∀ set ∈ f.column, ∃ board ∈ f.candidates catalog t,
    ∃ p ∈ set.patterns.toList, catalog.columnHolds t board p = true
  priority : ∀ set ∈ f.priority, ∃ p ∈ set.patterns.toList, catalog.priorityHolds t p = true
  status : ∀ set ∈ f.status, ∃ p ∈ set.patterns.toList, catalog.statusHolds t p = true

instance : Decidable (f.Passed catalog t) :=
  decidable_of_iff' _ (passed_iff f catalog t)

/-- The text of the first pattern that holds. -/
def firstText? (holds : Pattern → Bool) (set : PatternSet) : Option String :=
  (set.patterns.toList.find? holds).map Pattern.text

/-- The candidates on which some column pattern holds. -/
def boardsMatched (set : PatternSet) : List String :=
  (f.candidates catalog t).filter fun board =>
    set.patterns.toList.any (catalog.columnHolds t board)

/-- What is told of a ticket that passes: the boards on which a column pattern holds,
by name, and the first priority and status patterns that hold. -/
def grounds : Grounds where
  boards := match f.column with
    | some set => (f.boardsMatched catalog t set).map catalog.projectName
    | none => []
  priority := f.priority.bind (firstText? (catalog.priorityHolds t))
  status := f.status.bind (firstText? (catalog.statusHolds t))

/-- The filters as they are evaluated once the tag has been resolved. -/
def against : Search where
  filters := f
  catalog := catalog
  tag := f.tag.map fun tag => tag.byId catalog.resolve

end Filters

/-! ## One ticket -/

namespace Search

/-- A set of patterns is passed when one of them holds, and the first that does is
told. -/
theorem matchedText?_eq_some_iff {patterns : Option PatternSet}
    {find : PatternSet → Option PatternMatch} {holds : Pattern → Bool}
    (hFind : ∀ set, (find set).map PatternMatch.pattern = set.patterns.toList.find? holds)
    {text : Option String} :
    matchedText? patterns find = some text ↔
      (∀ set ∈ patterns, ∃ p ∈ set.patterns.toList, holds p = true) ∧
        text = patterns.bind (Filters.firstText? holds) := by
  cases patterns with
  | none => simp [matchedText?, @eq_comm _ none text]
  | some set =>
    have hText : matchedText? (some set) find =
        (set.patterns.toList.find? holds).map fun p => some p.text := by
      rw [matchedText?, ← hFind, Option.map_map]
      rfl
    -- there is a pattern that holds exactly when there is a first one
    have hSome : (∃ p ∈ set.patterns.toList, holds p = true) ↔
        (set.patterns.toList.find? holds).isSome = true := by
      rw [List.find?_isSome]
    rw [hText]
    simp only [Option.mem_def, Option.some.injEq, forall_eq', hSome, Option.bind_some,
      Filters.firstText?]
    cases set.patterns.toList.find? holds with
    | none => simp
    | some p => simp [@eq_comm _ (some p.text) text]

end Search

namespace Filters

variable {f : Filters} {catalog : Catalog} {t : Ticket}

theorem passesQuery_against_iff :
    (f.against catalog).passesQuery t = true ↔
      ∀ query ∈ f.query, query.toList <:+: (Text.lower t.title).toList := by
  simp only [Search.passesQuery, against, Option.all_eq_true, Text.occursIn_iff, Option.mem_def]

/-- A ticket created at the very time still passes. -/
theorem passesCreated_against_iff :
    (f.against catalog).passesCreated t = true ↔
      ∀ since ∈ f.createdSince, t.createdAt.isBefore since = false := by
  simp only [Search.passesCreated, against, Option.all_eq_true, Instant.notAfter,
    Bool.not_eq_true', Option.mem_def]

theorem passesUpdated_against_iff :
    (f.against catalog).passesUpdated t = true ↔
      ∀ since ∈ f.updatedSince, t.updatedAt.isBefore since = false := by
  simp only [Search.passesUpdated, against, Option.all_eq_true, Instant.notAfter,
    Bool.not_eq_true', Option.mem_def]

/-- A tag asks for a pattern each of whose names stands for a project of the ticket. -/
theorem passesTag_against_iff :
    (f.against catalog).passesTag t = true ↔
      ∀ tag ∈ f.tag, ∃ p ∈ tag.patterns.toList, ∀ name ∈ p.names.toList,
        ∃ id ∈ catalog.resolve name.raw, id ∈ t.projects := by
  simp only [Search.passesTag, against, Option.all_map, Option.all_eq_true,
    ProjectPatternSet.isMatch_byId_iff, Option.mem_def]

/-- Priorities ask for a pattern that holds, and tell the first. -/
theorem priorityText_against_iff {text : Option String} :
    Search.matchedText? (f.against catalog).filters.priority
        (fun set => (f.against catalog).priorityMatch? set t) = some text ↔
      (∀ set ∈ f.priority, ∃ p ∈ set.patterns.toList, catalog.priorityHolds t p = true) ∧
        text = (f.grounds catalog t).priority :=
  Search.matchedText?_eq_some_iff (PatternSet.findMatch?_pattern _ _ _)

theorem statusText_against_iff {text : Option String} :
    Search.matchedText? (f.against catalog).filters.status
        (fun set => (f.against catalog).statusMatch? set t) = some text ↔
      (∀ set ∈ f.status, ∃ p ∈ set.patterns.toList, catalog.statusHolds t p = true) ∧
        text = (f.grounds catalog t).status :=
  Search.matchedText?_eq_some_iff (PatternSet.findMatch?_pattern _ _ _)

theorem boardsMatched_ne_nil_iff {set : PatternSet} :
    f.boardsMatched catalog t set ≠ [] ↔ ∃ board ∈ f.candidates catalog t,
      ∃ p ∈ set.patterns.toList, catalog.columnHolds t board p = true := by
  simp [boardsMatched]

section Resolved

variable (hTag : ∀ tag ∈ f.tag, ∀ name ∈ tag.names, catalog.resolve name.raw ≠ [])

include hTag

/-- The candidates of resolved filters, said with the names of the tag. -/
theorem candidates_against : (f.against catalog).candidates t = f.candidates catalog t := by
  rw [Search.candidates, candidates, against]
  -- without a tag both are the boards of the ticket
  cases hSet : f.tag with
  | none => rfl
  | some tag => exact tag.allIds_byId catalog.resolve (hTag tag hSet)

/-- The boards on which the resolved filters match are those matched. -/
theorem boardsOn_against (set : PatternSet) :
    (f.against catalog).boardsOn set t = f.boardsMatched catalog t set := by
  rw [Search.boardsOn_eq_filter, candidates_against hTag, boardsMatched]
  congr 1
  funext board
  exact PatternSet.findMatch?_isSome _ _ _ set

/-- Columns ask for a candidate on which a pattern holds, and tell all of them by name. -/
theorem matchedBoards?_against_iff {names : List String} :
    (f.against catalog).matchedBoards? t = some names ↔
      (∀ set ∈ f.column, ∃ board ∈ f.candidates catalog t,
        ∃ p ∈ set.patterns.toList, catalog.columnHolds t board p = true) ∧
      names = (f.grounds catalog t).boards := by
  have hFilter : (f.against catalog).filters.column = f.column := rfl
  rw [Search.matchedBoards?_eq_some_iff, hFilter, grounds]
  cases f.column with
  | none => simp
  | some set =>
    have hBoards := boardsOn_against (t := t) hTag set
    -- a board is told by its name, but found by its id
    have hNames : ((f.against catalog).boardMatches set t).map
        (fun m => (f.against catalog).catalog.projectName m.board) =
          (f.boardsMatched catalog t set).map catalog.projectName := by
      rw [← hBoards, Search.boardsOn, List.map_map]
      rfl
    have hFound : (f.against catalog).boardMatches set t ≠ [] ↔
        f.boardsMatched catalog t set ≠ [] := by
      rw [← hBoards, Search.boardsOn, Ne, Ne, List.map_eq_nil_iff]
    simp only [Option.mem_def, Option.some.injEq, forall_eq', hNames, hFound,
      boardsMatched_ne_nil_iff]

/-- A ticket is found when it passes every filter by itself, on the grounds that each
filter gives by itself. -/
theorem evaluate_against_eq_some_iff {g : Grounds} :
    (f.against catalog).evaluate t = some g ↔
      f.Passed catalog t ∧ g = f.grounds catalog t := by
  -- each filter says what it asks for, and the last three what they tell
  rw [Search.evaluate_eq_some_iff, passesQuery_against_iff, passesCreated_against_iff,
    passesUpdated_against_iff, passesTag_against_iff, matchedBoards?_against_iff hTag,
    priorityText_against_iff, statusText_against_iff]
  constructor
  · rintro ⟨⟨hQuery, hCreated, hUpdated, hTagged⟩, ⟨hColumn, hBoards⟩, ⟨hPriority, hText⟩,
      ⟨hStatus, hText'⟩⟩
    refine ⟨⟨hQuery, hCreated, hUpdated, hTagged, hColumn, hPriority, hStatus⟩, ?_⟩
    obtain ⟨boards, priority, status⟩ := g
    cases hBoards
    cases hText
    cases hText'
    rfl
  · rintro ⟨h, rfl⟩
    exact ⟨⟨h.query, h.created, h.updated, h.tag⟩, ⟨h.column, rfl⟩, ⟨h.priority, rfl⟩,
      ⟨h.status, rfl⟩⟩

end Resolved

/-- Each part of the grounds is there exactly when its filter is. -/
theorem grounds_present (h : f.Passed catalog t) :
    ((f.grounds catalog t).boards ≠ [] ↔ f.column.isSome = true) ∧
      (f.grounds catalog t).priority.isSome = f.priority.isSome ∧
      (f.grounds catalog t).status.isSome = f.status.isSome := by
  -- priorities and statuses alike: that one holds means that there is a first one
  have hText : ∀ (patterns : Option PatternSet) (holds : Pattern → Bool),
      (∀ set ∈ patterns, ∃ p ∈ set.patterns.toList, holds p = true) →
        (patterns.bind (firstText? holds)).isSome = patterns.isSome := by
    intro patterns holds hEach
    cases patterns with
    | none => rfl
    | some set =>
      have hFirst := List.find?_isSome.mpr (hEach set rfl)
      rw [Option.bind_some, firstText?, Option.isSome_map, hFirst, Option.isSome_some]
  refine ⟨?_, hText _ _ h.priority, hText _ _ h.status⟩
  have hColumn := h.column
  rw [grounds]
  cases hSet : f.column with
  | none => simp
  | some set =>
    have hSome := boardsMatched_ne_nil_iff.mpr (hColumn set hSet)
    simpa using hSome

end Filters

/-! ## All tickets -/

/-- Items that are found by a condition, each with what is told of it. -/
theorem filterMap_eq_map_filter {α β : Type} {find : α → Option β} {p : α → Prop}
    [DecidablePred p] {g : α → β} (h : ∀ a b, find a = some b ↔ p a ∧ b = g a) (l : List α) :
    l.filterMap find = (l.filter fun a => p a).map g := by
  induction l with
  | nil => rfl
  | cons a rest ih =>
    -- the condition decides whether the item stays, and `h` what becomes of it
    by_cases hp : p a
    · rw [List.filterMap_cons_some ((h a _).mpr ⟨hp, rfl⟩), ih,
        List.filter_cons_of_pos (by simpa using hp), List.map_cons]
    · have hNone : find a = none :=
        Option.eq_none_iff_forall_ne_some.mpr fun b hb => hp ((h a b).mp hb).1
      rw [List.filterMap_cons_none hNone, ih, List.filter_cons_of_neg (by simpa using hp)]

namespace Plan

/-- The hits of a plan: the tickets that pass its filters, with the grounds for them. -/
def hits (plan : Plan) (catalog : Catalog) (tickets : List Ticket) : List Hit :=
  (tickets.filter fun t => plan.filters.Passed catalog t).map fun t =>
    plan.hit catalog t (plan.filters.grounds catalog t)

theorem hits_append (plan : Plan) (catalog : Catalog) (A B : List Ticket) :
    plan.hits catalog (A ++ B) = plan.hits catalog A ++ plan.hits catalog B := by
  rw [hits, List.filter_append, List.map_append]
  rfl

/-- The results of a plan on a snapshot, under the given settings. -/
def results (plan : Plan) (console : Console) (snapshot : Snapshot) (settings : Settings) :
    Except UnresolvedProject (List Hit) :=
  (plan.execute console snapshot (Catalog.ofSnapshot snapshot settings)).result

/-- What is wrong with the first name in the plan's tag that stands for no project. -/
def unresolved? (plan : Plan) (catalog : Catalog) : Option UnresolvedProject :=
  plan.filters.tag.bind fun tag => tag.unresolved? catalog.resolve

/-- A tag resolves when each name in it stands for some project. -/
theorem unresolved?_eq_none_iff {plan : Plan} {catalog : Catalog} :
    plan.unresolved? catalog = none ↔
      ∀ tag ∈ plan.filters.tag, ∀ name ∈ tag.names, catalog.resolve name.raw ≠ [] := by
  simp only [unresolved?, Option.bind_eq_none_iff, Option.mem_def,
    ProjectPatternSet.unresolved?_eq_none_iff]

/-- A plan is evaluated with its tag resolved, unless that fails. -/
theorem search_eq (plan : Plan) (catalog : Catalog) :
    plan.search catalog =
      unlessFault (plan.unresolved? catalog) (plan.filters.against catalog) := by
  rw [Plan.search, Filters.against, unresolved?]
  cases plan.filters.tag with
  | none => rfl
  | some tag =>
    rw [Option.mapM_some, tag.resolve_eq, Option.bind_some]
    cases tag.unresolved? catalog.resolve <;> rfl

/-- Once the tag is resolved, what is found are the tickets that pass. -/
theorem found_against {f : Filters} {catalog : Catalog}
    (hTag : ∀ tag ∈ f.tag, ∀ name ∈ tag.names, catalog.resolve name.raw ≠ [])
    (tickets : List Ticket) :
    found (f.against catalog) tickets =
      (tickets.filter fun t => f.Passed catalog t).map fun t => (t, f.grounds catalog t) := by
  refine filterMap_eq_map_filter (fun t result => ?_) tickets
  simp only [Option.map_eq_some_iff, Filters.evaluate_against_eq_some_iff hTag]
  constructor
  · rintro ⟨g, ⟨hPassed, rfl⟩, rfl⟩
    exact ⟨hPassed, rfl⟩
  · rintro ⟨hPassed, rfl⟩
    exact ⟨_, ⟨hPassed, rfl⟩, rfl⟩

/-- A plan comes to its hits unless a name in its tag stands for no project. -/
theorem execute_result (plan : Plan) (console : Console) (snapshot : Snapshot)
    (catalog : Catalog) :
    (plan.execute console snapshot catalog).result =
      unlessFault (plan.unresolved? catalog) (plan.hits catalog snapshot.tickets) := by
  rw [Plan.execute, search_eq]
  cases hFault : plan.unresolved? catalog with
  | some e => rfl
  | none =>
    -- once the tag is resolved nothing fails, and what is printed on the way is not read
    show Except.ok ((found (plan.filters.against catalog) snapshot.tickets).map fun x =>
      plan.hit catalog x.1 x.2) = _
    rw [found_against (unresolved?_eq_none_iff.mp hFault), List.map_map]
    rfl

/-- **A plan finds exactly the tickets that pass every filter**, each filter by itself,
in the order of the snapshot and once for each entry. What is told of a ticket is
told by the filter concerned, and told exactly when there is that filter. So tickets
are found apart from each other: those of two lists put together are those of the
first and then those of the second. -/
theorem execute_finds_passed (console : Console) (snapshot : Snapshot) (settings : Settings)
    (plan : Plan) (hTag : ∀ tag ∈ plan.filters.tag, ∀ name ∈ tag.names,
      (Catalog.ofSnapshot snapshot settings).resolve name.raw ≠ []) :
    let catalog := Catalog.ofSnapshot snapshot settings
    plan.results console snapshot settings =
        .ok ((snapshot.tickets.filter fun t => plan.filters.Passed catalog t).map fun t =>
          plan.hit catalog t (plan.filters.grounds catalog t)) ∧
      (∀ t, plan.filters.Passed catalog t →
        ((plan.filters.grounds catalog t).boards ≠ [] ↔ plan.filters.column.isSome = true) ∧
        (plan.filters.grounds catalog t).priority.isSome = plan.filters.priority.isSome ∧
        (plan.filters.grounds catalog t).status.isSome = plan.filters.status.isSome) ∧
      (∀ now heading criteria, ofCriteria now heading criteria = .ok plan →
        plan.filters.query = criteria.query.map Text.lower) ∧
      (∀ A B, ∃ hitsA hitsB,
        plan.results console { snapshot with tickets := A } settings = .ok hitsA ∧
        plan.results console { snapshot with tickets := B } settings = .ok hitsB ∧
        plan.results console { snapshot with tickets := A ++ B } settings =
          .ok (hitsA ++ hitsB)) := by
  intro catalog
  have hResolved : plan.unresolved? catalog = none := unresolved?_eq_none_iff.mpr hTag
  -- the catalog is that of the snapshot, whatever the tickets are
  have hHits : ∀ tickets, plan.results console { snapshot with tickets } settings =
      .ok (plan.hits catalog tickets) := by
    intro tickets
    have hResult := execute_result plan console { snapshot with tickets } catalog
    rw [hResolved] at hResult
    exact hResult
  refine ⟨hHits snapshot.tickets, fun t => Filters.grounds_present, ?_, ?_⟩
  · intro now heading criteria hPlan
    rw [ofCriteria_eq, unlessFault_eq_ok_iff] at hPlan
    -- a plan that is made has the filters of its criteria
    obtain ⟨-, rfl⟩ := hPlan
    rfl
  · intro A B
    exact ⟨_, _, hHits A, hHits B, by rw [hHits, hits_append]⟩

/-- Two boards, and two tickets that are on both of them; only the second was ever
raised. -/
def raisedSnapshot : Snapshot where
  projects := [
    { id := "P1", name := "Dev", columns := [⟨"C1", "Doing", 0⟩, ⟨"C2", "Done", 1⟩] },
    { id := "P2", name := "Ops", columns := [⟨"C1", "Doing", 0⟩, ⟨"C2", "Done", 1⟩] }]
  tickets := [
    { id := 7, title := "Crash", status := "open", priority := "80", createdAt := .earliest,
      updatedAt := .earliest, projects := ["P1"],
      columns := Dictionary.ofList [("P1", "C2"), ("P2", "C2")] },
    { id := 8, title := "CRASH again", status := "open", priority := "80",
      createdAt := .earliest, updatedAt := .earliest, projects := ["P1", "P2"],
      columns := Dictionary.ofList [("P1", "C2"), ("P2", "C1")],
      history := [⟨⟨⟨some "50", "80"⟩, .earliest⟩, .priority⟩] }]

/-- Tickets tagged `dev` on a crash that were raised and are done on a board of the
tag. -/
def raisedPlan : Plan where
  filters := {
    tag := some ⟨⟨⟨⟨⟨"dev"⟩, []⟩⟩, []⟩⟩
    query := some "crash"
    column := some ⟨⟨⟨⟨.current "Done", false⟩, []⟩⟩, []⟩
    priority := some ⟨⟨⟨⟨.moved .raised, false⟩, []⟩⟩, []⟩ }
  showMetadata := true

/-- Both tickets are tagged and done somewhere, but only one was raised, and of its boards
only that of the tag is told. -/
theorem execute_finds_passed_raised :
    (∀ tag ∈ raisedPlan.filters.tag, ∀ name ∈ tag.names,
        (Catalog.ofSnapshot raisedSnapshot {}).resolve name.raw ≠ []) ∧
      raisedPlan.results {} raisedSnapshot {} =
        .ok [⟨"T8", "CRASH again", "open", "High", ["Dev", "Ops"],
          some ⟨["Dev"], some "raised", none⟩, none⟩] := by
  have hTag : ∀ tag ∈ raisedPlan.filters.tag, ∀ name ∈ tag.names,
      (Catalog.ofSnapshot raisedSnapshot {}).resolve name.raw ≠ [] := by decide
  obtain ⟨hResults, -⟩ := execute_finds_passed {} raisedSnapshot {} raisedPlan hTag
  refine ⟨hTag, hResults.trans ?_⟩
  rfl

end Plan

end TicketTrail
