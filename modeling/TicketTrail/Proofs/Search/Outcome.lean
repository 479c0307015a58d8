import Mathlib.Data.List.TakeWhile
import TicketTrail.Proofs.Search.Results

/-!
# How a run ends

A run goes through three stages, and each can fail. The searches of the request are
planned, all of them before anything else; the snapshot is loaded; and the searches
are carried out one after another. The first two stages write nothing but notices,
so what they fail with depends on nothing that comes later. In the third stage only
a tag can fail, and by then the searches before it have been reported.

Main results:

* `SearchRequest.plans_outcome` — planning, by the first search at fault;
* `Plan.executeAll_outcome` — a row of searches, by the first whose tag does not
  resolve;
* `SearchRequest.run_outcome` — what a run comes to, and what it prints.
-/

namespace TicketTrail

/-! ## What a step comes to -/

/-- What a step comes to and the results it prints, notices aside. -/
def Step.outcome {ε α : Type} (s : Step ε α) : Except ε α × List String :=
  (s.result, s.printed.results)

namespace Step

variable {ε δ α β : Type}

/-- What comes after a failure neither runs nor prints. -/
theorem outcome_bind_error {s : Step ε α} {e : ε} {lines : List String}
    (h : s.outcome = (.error e, lines)) (next : α → Step ε β) :
    (s >>= next).outcome = (.error e, lines) := by
  obtain ⟨printed, result⟩ := s
  cases h
  rfl

/-- What comes after a success prints after it. -/
theorem outcome_bind_ok {s : Step ε α} {a : α} {lines : List String}
    (h : s.outcome = (.ok a, lines)) (next : α → Step ε β) :
    (s >>= next).outcome = ((next a).outcome.1, lines ++ (next a).outcome.2) := by
  obtain ⟨printed, result⟩ := s
  cases h
  rfl

/-- A step that prints no results is not noticed when it succeeds. -/
theorem outcome_bind_quiet {s : Step ε α} {a : α} (h : s.outcome = (.ok a, []))
    (next : α → Step ε β) : (s >>= next).outcome = (next a).outcome := by
  rw [outcome_bind_ok h, List.nil_append]

theorem outcome_silent (result : Except ε α) : (silent result).outcome = (result, []) := rfl

theorem outcome_print (t : Transcript) : (print t : Step ε Unit).outcome = (.ok (), t.results) :=
  rfl

theorem outcome_mapError (f : ε → δ) (s : Step ε α) :
    (s.mapError f).outcome = (s.outcome.1.mapError f, s.outcome.2) := rfl

end Step

section Notices

variable {ε : Type} (console : Console)

/-- Warnings are notices, however many there are. -/
theorem Console.results_warnings (messages : List String) :
    (console.warnings messages).results = [] := by
  rw [warnings]
  -- each warning is a notice, so nothing is added on the way
  induction messages with
  | nil => rfl
  | cons message rest ih =>
    rw [List.foldr_cons, Transcript.results_append, results_warning, ih]
    rfl

theorem Step.outcome_remarks (topic : String) (messages : List String) :
    (Step.print (console.remarks topic messages) : Step ε Unit).outcome = (.ok (), []) := by
  rw [outcome_print, Console.results_remarks]

theorem Step.outcome_remark (topic message : String) :
    (Step.print (console.remark topic message) : Step ε Unit).outcome = (.ok (), []) :=
  outcome_remarks console topic [message]

theorem Step.outcome_warnings (messages : List String) :
    (Step.print (console.warnings messages) : Step ε Unit).outcome = (.ok (), []) := by
  rw [outcome_print, Console.results_warnings]

end Notices

/-! ## A row of searches -/

namespace Plan

variable (console : Console) (snapshot : Snapshot) (catalog : Catalog)

/-- A plan by itself prints no results; its hits are reported once it has succeeded. -/
theorem execute_outcome (plan : Plan) :
    (plan.execute console snapshot catalog).outcome =
      (unlessFault (plan.unresolved? catalog) (plan.hits catalog snapshot.tickets), []) := by
  refine Prod.ext (plan.execute_result console snapshot catalog) ?_
  rw [Plan.execute]
  cases plan.search catalog with
  | error e => rfl
  | ok s =>
    -- all that is printed on the way are remarks and warnings
    rw [Step.outcome_bind_quiet (Step.outcome_silent _),
      Step.outcome_bind_quiet (Step.outcome_remarks console _ _),
      Step.outcome_bind_quiet (Step.outcome_remarks console _ _),
      Step.outcome_bind_quiet (Step.outcome_warnings console _),
      Step.outcome_bind_quiet (Step.outcome_remark console _ _)]
    rfl

/-- The reports of plans, one after another. -/
def reports (console : Console) (catalog : Catalog) (tickets : List Ticket) (isFirst : Bool) :
    List Plan → List String
  | [] => []
  | plan :: rest =>
    (plan.report console isFirst (plan.hits catalog tickets)).results ++
      reports console catalog tickets false rest

/-- The plans before the first whose tag does not resolve. -/
def resolved (catalog : Catalog) (plans : List Plan) : List Plan :=
  plans.takeWhile fun plan => (plan.unresolved? catalog).isNone

section Resolved

variable {catalog} {before after : List Plan}
  (hBefore : ∀ plan ∈ before, plan.unresolved? catalog = none)

include hBefore

/-- Plans whose tags all resolve are all carried out. -/
theorem resolved_eq_self : resolved catalog before = before := by
  rw [resolved, List.takeWhile_eq_self_iff]
  intro plan hPlan
  rw [hBefore plan hPlan]
  rfl

/-- The plan at fault is not carried out, nor are those after it. -/
theorem resolved_eq_before {plan : Plan} {e : UnresolvedProject}
    (hPlan : plan.unresolved? catalog = some e) :
    resolved catalog (before ++ plan :: after) = before := by
  have hPass : ∀ p ∈ before, (p.unresolved? catalog).isNone = true := by
    intro p hp
    rw [hBefore p hp]
    rfl
  rw [resolved, List.takeWhile_append_of_pos hPass, List.takeWhile_cons, hPlan]
  exact List.append_nil before

end Resolved

/-- **A row of plans** fails with the first tag that does not resolve, and the plans
before it have been reported by then. -/
theorem executeAll_outcome (isFirst : Bool) (plans : List Plan) :
    (executeAll console snapshot catalog isFirst plans).outcome =
      (unlessFault (plans.findSome? fun plan => plan.unresolved? catalog) (),
        reports console catalog snapshot.tickets isFirst (resolved catalog plans)) := by
  -- only the first report has no empty line before it, so the flag varies
  induction plans generalizing isFirst with
  | nil => rfl
  | cons plan rest ih =>
    have hExecute := execute_outcome console snapshot catalog plan
    rw [executeAll, List.findSome?_cons, resolved, List.takeWhile_cons]
    cases hFault : plan.unresolved? catalog with
    | some e =>
      -- this plan ends the row, and it has printed no results itself
      rw [hFault] at hExecute
      exact Step.outcome_bind_error hExecute _
    | none =>
      rw [hFault] at hExecute
      rw [Step.outcome_bind_quiet hExecute, Step.outcome_bind_ok (Step.outcome_print _), ih false]
      rfl

end Plan

/-! ## The searches of a request -/

/-- A search as a request comes to it: the criteria, those of the request before the
saved ones, and a heading when it was saved. -/
structure AskedSearch where
  heading : Option Heading := none
  criteria : Criteria
deriving DecidableEq

namespace AskedSearch

/-- The search for a saved search, under the criteria of the request. -/
def ofSaved (own : Criteria) (saved : SavedSearch) : AskedSearch where
  heading := some { title := saved.title, description := saved.description }
  criteria := own.withDefaults saved.criteria

/-- A fault of the criteria as a fault of the search. -/
def refuse (s : AskedSearch) (cause : CriteriaError) : PlanError :=
  match s.heading with
  | none => .request cause
  | some heading => .saved heading.title cause

/-- What stands before a fault of the search when it is told: the title, if it has
one. -/
def label (s : AskedSearch) : String :=
  match s.heading with
  | none => ""
  | some heading => "Search '" ++ heading.title ++ "': "

/-- Why the search cannot be planned. -/
def fault? (s : AskedSearch) : Option PlanError :=
  s.criteria.faults.head?.map s.refuse

/-- The plan for the search. -/
def plan (now : Instant) (s : AskedSearch) : Plan :=
  .reading now s.heading s.criteria

/-- Every name in the tag stands for some project. -/
def Resolves (catalog : Catalog) (s : AskedSearch) : Prop :=
  ∀ tag ∈ s.criteria.tagSet?, ∀ name ∈ tag.names, catalog.resolve name.raw ≠ []

/-- A fault is told after the title of its search. -/
theorem message_refuse (s : AskedSearch) (cause : CriteriaError) :
    (s.refuse cause).message = s.label ++ cause.message := by
  rw [refuse, label]
  cases s.heading with
  | none => exact String.empty_append.symm
  | some heading => rfl

theorem fault?_eq_none_iff {s : AskedSearch} : s.fault? = none ↔ s.criteria.faults = [] := by
  rw [fault?, Option.map_eq_none_iff, List.head?_eq_none_iff]

/-- The plan for a search has a tag that resolves when the search does. -/
theorem unresolved?_plan_eq_none_iff {now : Instant} {catalog : Catalog} {s : AskedSearch} :
    (s.plan now).unresolved? catalog = none ↔ s.Resolves catalog :=
  Plan.unresolved?_eq_none_iff

theorem unresolved?_of_mem_plans {now : Instant} {catalog : Catalog} {asked : List AskedSearch}
    (h : ∀ s ∈ asked, s.Resolves catalog) :
    ∀ p ∈ asked.map (plan now), p.unresolved? catalog = none :=
  List.forall_mem_map.mpr fun s hs => unresolved?_plan_eq_none_iff.mpr (h s hs)

/-- A plan fails with the first name of its tag that stands for no project. -/
theorem unresolved?_plan_of_first {now : Instant} {catalog : Catalog} {s : AskedSearch}
    {tag : ProjectPatternSet} {front back : List ProjectName} {name : ProjectName}
    (hTag : s.criteria.tagSet? = some tag) (hNames : tag.names = front ++ name :: back)
    (hFront : ∀ n ∈ front, catalog.resolve n.raw ≠ []) (hName : catalog.resolve name.raw = []) :
    (s.plan now).unresolved? catalog = some { name := name.raw, pattern := tag.text } := by
  have hMissing : tag.missing? catalog.resolve name =
      some { name := name.raw, pattern := tag.text } := by
    rw [ProjectPatternSet.missing?, hName]
    rfl
  show (s.criteria.tagSet?.bind fun tag => tag.unresolved? catalog.resolve) = _
  rw [hTag, Option.bind_some, ProjectPatternSet.unresolved?, hNames]
  -- the names before it resolve, so the first that is missing is this one
  exact findSome?_of_first
    (fun n hn => (tag.missing?_eq_none_iff catalog.resolve).mpr (hFront n hn)) hMissing

end AskedSearch

namespace SearchRequest

/-- The searches of a request, unless they are in a file that does not load. -/
def searches (files : Files) (request : SearchRequest) :
    Except SavedSearchError (List AskedSearch) :=
  match request.template with
  | none => .ok [{ criteria := request.criteria }]
  | some path => (SavedSearch.load files path).map (List.map (AskedSearch.ofSaved request.criteria))

/-- Why the request cannot be planned: its file does not load, or one of its searches
is the first at fault. -/
def refusal? (files : Files) (request : SearchRequest) : Option PlanError :=
  match request.searches files with
  | .error cause => some (.file cause)
  | .ok searches => searches.findSome? AskedSearch.fault?

/-- The searches depend on no file but that of the saved searches. -/
theorem searches_congr {files files' : Files} {request : SearchRequest}
    (h : ∀ path ∈ request.template, files'.read path = files.read path) :
    request.searches files' = request.searches files := by
  rw [searches, searches]
  cases hTemplate : request.template with
  | none => rfl
  | some path =>
    show (SavedSearch.load files' path).map _ = (SavedSearch.load files path).map _
    rw [SavedSearch.load, SavedSearch.load, h path hTemplate]

/-- The first search at fault is the one that is refused. -/
theorem refusal?_of_first {files : Files} {request : SearchRequest}
    {before after : List AskedSearch} {search : AskedSearch} {cause : CriteriaError}
    (hSearches : request.searches files = .ok (before ++ search :: after))
    (hBefore : ∀ s ∈ before, s.criteria.faults = [])
    (hCause : search.criteria.faults.head? = some cause) :
    request.refusal? files = some (search.refuse cause) := by
  have hFault : search.fault? = some (search.refuse cause) := by
    rw [AskedSearch.fault?, hCause, Option.map_some]
  rw [refusal?, hSearches]
  exact findSome?_of_first (fun s hs => AskedSearch.fault?_eq_none_iff.mpr (hBefore s hs)) hFault

theorem refusal?_eq_none {files : Files} {request : SearchRequest} {asked : List AskedSearch}
    (hSearches : request.searches files = .ok asked) (h : ∀ s ∈ asked, s.criteria.faults = []) :
    request.refusal? files = none := by
  rw [refusal?, hSearches]
  exact List.findSome?_eq_none_iff.mpr fun s hs => AskedSearch.fault?_eq_none_iff.mpr (h s hs)

section Planning

variable (console : Console) (files : Files) (now : Instant) (request : SearchRequest)

/-- A saved search is planned unless its criteria, under those of the request, have a
fault. -/
theorem ofSaved_eq (own : Criteria) (saved : SavedSearch) :
    Plan.ofSaved now own saved =
      unlessFault (AskedSearch.ofSaved own saved).fault?
        ((AskedSearch.ofSaved own saved).plan now) := by
  rw [Plan.ofSaved, Plan.ofCriteria_eq, mapError_unlessFault]
  rfl

/-- Planning fails with the file or with the first search at fault, and else makes a
plan for each search. It prints no results. -/
theorem plans_outcome :
    (request.plans console files now).outcome =
      (unlessFault (request.refusal? files)
        (((request.searches files).toOption.getD []).map (AskedSearch.plan now)), []) := by
  rw [plans, refusal?, searches]
  cases request.template with
  | none =>
    show (((Plan.ofCriteria now none request.criteria).map _).mapError _, _) = _
    rw [Plan.ofCriteria_eq, map_unlessFault, mapError_unlessFault]
    -- the request itself is the only search
    show _ = (unlessFault ([AskedSearch.mk none request.criteria].findSome? _) _, _)
    rw [List.findSome?_singleton]
    rfl
  | some path =>
    dsimp only
    cases SavedSearch.load files path with
    | error cause => rfl
    | ok saved =>
      have hSaved : Plan.ofSaved now request.criteria = fun s =>
          unlessFault (AskedSearch.ofSaved request.criteria s).fault?
            ((AskedSearch.ofSaved request.criteria s).plan now) :=
        funext (ofSaved_eq now request.criteria)
      -- the file loads, so what is left are the plans for its searches
      have hLoaded : (Except.ok saved).mapError PlanError.file = .ok saved := rfl
      rw [hLoaded, Step.outcome_bind_quiet (Step.outcome_silent _),
        Step.outcome_bind_quiet (Step.outcome_remark console _ _), Step.outcome_silent, hSaved,
        list_mapM_unlessFault]
      show _ = (unlessFault ((saved.map (AskedSearch.ofSaved request.criteria)).findSome? _)
        ((saved.map (AskedSearch.ofSaved request.criteria)).map _), [])
      rw [List.findSome?_map, List.map_map]
      rfl

end Planning

/-! ## Runs -/

/-- What a run does once its searches are planned. -/
def carryOut (console : Console) (files : Files) (settings : Settings) (path : Option String)
    (plans : List Plan) : Step SearchError Unit := do
  .print (console.remarks "search" (plans.map fun plan => "Filters: " ++ plan.filters.describe))
  let path ← .silent (match path with
    | some path => .ok path
    | none => .error .noSnapshot)
  .print (console.remark "search" ("Loading snapshot: " ++ path))
  let snapshot ← .silent ((Snapshot.load files path).mapError .snapshot)
  .print (console.warnings (sizeWarnings snapshot))
  (Plan.executeAll console snapshot (Catalog.ofSnapshot snapshot settings) true plans).mapError
    .unresolved

section Run

variable (console : Console) {files : Files} (now : Instant) (settings : Settings)
  (path : Option String) {request : SearchRequest}

/-- All searches are planned before any is carried out. -/
theorem run_eq_bind : request.run console files now settings path =
    (request.plans console files now).mapError .plan >>= carryOut console files settings path := rfl

/-- A request that cannot be planned fails before the snapshot is looked for. -/
theorem run_of_refusal {e : PlanError} (h : request.refusal? files = some e) :
    (request.run console files now settings path).outcome = (.error (.plan e), []) := by
  rw [run_eq_bind]
  refine Step.outcome_bind_error ?_ (carryOut console files settings path)
  rw [Step.outcome_mapError, plans_outcome, h]
  rfl

/-- A request that can be planned comes to what its plans come to. -/
theorem run_of_no_refusal (h : request.refusal? files = none) {asked : List AskedSearch}
    (hAsked : request.searches files = .ok asked) :
    (request.run console files now settings path).outcome =
      (carryOut console files settings path (asked.map (AskedSearch.plan now))).outcome := by
  rw [run_eq_bind]
  refine Step.outcome_bind_quiet ?_ (carryOut console files settings path)
  rw [Step.outcome_mapError, plans_outcome, h, hAsked]
  rfl

/-- Planned searches fail without a snapshot. -/
theorem carryOut_of_no_path (plans : List Plan) :
    (carryOut console files settings none plans).outcome = (.error .noSnapshot, []) := by
  rw [carryOut, Step.outcome_bind_quiet (Step.outcome_remarks console _ _)]
  rfl

/-- With a path, only the loading and the searches themselves matter; the rest is notices. -/
theorem carryOut_of_path (p : String) (plans : List Plan) :
    (carryOut console files settings (some p) plans).outcome =
      (Step.silent ((Snapshot.load files p).mapError .snapshot) >>= fun snapshot => do
        .print (console.warnings (sizeWarnings snapshot))
        (Plan.executeAll console snapshot (Catalog.ofSnapshot snapshot settings) true
          plans).mapError .unresolved).outcome := by
  -- remarks are bound in front of everything and fall away one by one
  rw [carryOut, Step.outcome_bind_quiet (Step.outcome_remarks console _ _),
    Step.outcome_bind_quiet (Step.outcome_silent _),
    Step.outcome_bind_quiet (Step.outcome_remark console _ _)]

/-- Planned searches fail with a snapshot that does not load. -/
theorem carryOut_of_no_snapshot {p : String} {cause : SnapshotError}
    (h : Snapshot.load files p = .error cause) (plans : List Plan) :
    (carryOut console files settings (some p) plans).outcome = (.error (.snapshot cause), []) := by
  rw [carryOut_of_path, h]
  rfl

/-- On a snapshot, plans fail with the first tag that does not resolve, and those
before it are reported. -/
theorem carryOut_of_snapshot {p : String} {snapshot : Snapshot}
    (h : Snapshot.load files p = .ok snapshot) (plans : List Plan) :
    let catalog := Catalog.ofSnapshot snapshot settings
    (carryOut console files settings (some p) plans).outcome =
      (unlessFault ((plans.findSome? fun plan => plan.unresolved? catalog).map .unresolved) (),
        Plan.reports console catalog snapshot.tickets true (Plan.resolved catalog plans)) := by
  intro catalog
  have hLoaded : (Snapshot.load files p).mapError SearchError.snapshot = .ok snapshot := by
    rw [h]
    rfl
  rw [carryOut_of_path, hLoaded, Step.outcome_bind_quiet (Step.outcome_silent _),
    Step.outcome_bind_quiet (Step.outcome_warnings console _), Step.outcome_mapError,
    Plan.executeAll_outcome, mapError_unlessFault]

/-- Searches whose tags resolve are all reported. -/
theorem run_of_resolves {p : String} {snapshot : Snapshot} {asked : List AskedSearch}
    (hAsked : request.searches files = .ok asked) (hFaults : ∀ s ∈ asked, s.criteria.faults = [])
    (hLoad : Snapshot.load files p = .ok snapshot)
    (hResolves : ∀ s ∈ asked, s.Resolves (Catalog.ofSnapshot snapshot settings)) :
    (request.run console files now settings (some p)).outcome =
      (.ok (), Plan.reports console (Catalog.ofSnapshot snapshot settings) snapshot.tickets true
        (asked.map (AskedSearch.plan now))) := by
  have hPlans := @AskedSearch.unresolved?_of_mem_plans now _ _ hResolves
  rw [run_of_no_refusal console now settings _ (refusal?_eq_none hAsked hFaults) hAsked,
    carryOut_of_snapshot console settings hLoad, List.findSome?_eq_none_iff.mpr hPlans,
    Plan.resolved_eq_self hPlans]
  rfl

/-- Of searches of which one is the first with a tag that does not resolve, those
before it are reported. -/
theorem run_of_unresolved {p : String} {snapshot : Snapshot} {before after : List AskedSearch}
    {search : AskedSearch} {e : UnresolvedProject}
    (hAsked : request.searches files = .ok (before ++ search :: after))
    (hFaults : ∀ s ∈ before ++ search :: after, s.criteria.faults = [])
    (hLoad : Snapshot.load files p = .ok snapshot)
    (hResolves : ∀ s ∈ before, s.Resolves (Catalog.ofSnapshot snapshot settings))
    (hUnresolved : (search.plan now).unresolved? (Catalog.ofSnapshot snapshot settings) = some e) :
    (request.run console files now settings (some p)).outcome =
      (.error (.unresolved e), Plan.reports console (Catalog.ofSnapshot snapshot settings)
        snapshot.tickets true (before.map (AskedSearch.plan now))) := by
  -- planning lets all of them through, also those after the one that fails
  have hPlans := @AskedSearch.unresolved?_of_mem_plans now _ _ hResolves
  rw [run_of_no_refusal console now settings _ (refusal?_eq_none hAsked hFaults) hAsked,
    carryOut_of_snapshot console settings hLoad, List.map_append, List.map_cons,
    findSome?_of_first hPlans hUnresolved, Plan.resolved_eq_before hPlans hUnresolved]
  rfl

end Run

/-- **How a run ends.** If the searches do not load, or one of them is the first at
fault, the run fails with that, under its title, whatever snapshot there is. If not,
it fails with the snapshot. Neither prints a result. Else it fails with the first
name that stands for no project in the first tag to have one, and has printed what a
run of the searches before would have printed; if there is none, it succeeds and has
printed the reports of all searches. -/
theorem run_outcome (console : Console) (files : Files) (now : Instant) (settings : Settings)
    (path : Option String) (request : SearchRequest) :
    (∀ e, request.refusal? files = some e →
      ∀ (files' : Files) (settings' : Settings) (path' : Option String),
        (∀ template ∈ request.template, files'.read template = files.read template) →
          (request.run console files' now settings' path').outcome = (.error (.plan e), [])) ∧
    (∀ cause, request.searches files = .error cause →
      request.refusal? files = some (.file cause)) ∧
    (∀ before search after cause, request.searches files = .ok (before ++ search :: after) →
      (∀ s ∈ before, s.criteria.faults = []) → search.criteria.faults.head? = some cause →
        request.refusal? files = some (search.refuse cause) ∧
        (search.refuse cause).message = search.label ++ cause.message) ∧
    (∀ asked, request.searches files = .ok asked → (∀ s ∈ asked, s.criteria.faults = []) →
      (path = none →
        (request.run console files now settings path).outcome = (.error .noSnapshot, [])) ∧
      (∀ p cause, path = some p → Snapshot.load files p = .error cause →
        (request.run console files now settings path).outcome = (.error (.snapshot cause), [])) ∧
      (∀ p snapshot, path = some p → Snapshot.load files p = .ok snapshot →
        let catalog := Catalog.ofSnapshot snapshot settings
        let reports := fun asked : List AskedSearch =>
          Plan.reports console catalog snapshot.tickets true (asked.map (AskedSearch.plan now))
        (∀ before search after tag front name back, asked = before ++ search :: after →
          (∀ s ∈ before, s.Resolves catalog) → search.criteria.tagSet? = some tag →
          tag.names = front ++ name :: back → (∀ n ∈ front, catalog.resolve n.raw ≠ []) →
          catalog.resolve name.raw = [] →
            (request.run console files now settings path).outcome =
              (.error (.unresolved { name := name.raw, pattern := tag.text }), reports before) ∧
            ∀ (files' : Files) (path' : String) (request' : SearchRequest),
              request'.searches files' = .ok before → Snapshot.load files' path' = .ok snapshot →
                (request'.run console files' now settings (some path')).outcome =
                  (.ok (), reports before)) ∧
        ((∀ s ∈ asked, s.Resolves catalog) →
          (request.run console files now settings path).outcome = (.ok (), reports asked)))) := by
  refine ⟨?_, ?_, ?_, ?_⟩
  · intro e hRefusal files' settings' path' hTemplate
    -- the refusal is read off the file of saved searches, which is the same in both
    refine run_of_refusal console now settings' path' ?_
    rw [refusal?, searches_congr hTemplate]
    exact hRefusal
  · intro cause hSearches
    rw [refusal?, hSearches]
  · intro before search after cause hSearches hBefore hCause
    exact ⟨refusal?_of_first hSearches hBefore hCause, search.message_refuse cause⟩
  · intro asked hAsked hFaults
    have hRun := run_of_no_refusal console now settings path (refusal?_eq_none hAsked hFaults)
      hAsked
    refine ⟨?_, ?_, ?_⟩
    · rintro rfl
      rw [hRun, carryOut_of_no_path]
    · rintro p cause rfl hLoad
      rw [hRun, carryOut_of_no_snapshot console settings hLoad]
    · rintro p snapshot rfl hLoad catalog reports
      refine ⟨?_, run_of_resolves console now settings hAsked hFaults hLoad⟩
      rintro before search after tag front name back rfl hBefore hTag hNames hFront hName
      refine ⟨run_of_unresolved console now settings hAsked hFaults hLoad hBefore
        (AskedSearch.unresolved?_plan_of_first hTag hNames hFront hName), ?_⟩
      intro files' path' request' hAsked' hLoad'
      -- the searches before are without fault too, and all their tags resolve
      exact run_of_resolves console now settings hAsked'
        (fun s hs => hFaults s (List.mem_append_left _ hs)) hLoad' hBefore

/-- Two saved searches, each by a tag. -/
def savedText : String :=
  "search:\n  tag: dev\n---\ntitle: Ops\nsearch:\n  tag: dev + ops\n"

/-- The saved searches, and a snapshot at every other path. -/
def savedFiles : Files where
  read path :=
    if path = "searches.yaml" then .ok savedText
    else .ok "\x7b\"projects\": [\x7b\"id\": \"P1\", \"name\": \"Dev\"\x7d], \"tasks\": []\x7d"

/-- The request for the saved searches. -/
def savedRequest : SearchRequest := { template := some "searches.yaml" }

/-- The snapshot, which has one project and no tickets. -/
def savedSnapshot : Snapshot := { projects := [{ id := "P1", name := "Dev" }] }

/-- The first of the saved searches. -/
def firstSaved : AskedSearch := ⟨some ⟨"Search 1", none⟩, { tag := some "dev" }⟩

/-- The second of the saved searches, whose tag names a project that there is not. -/
def secondSaved : AskedSearch := ⟨some ⟨"Ops", none⟩, { tag := some "dev + ops" }⟩

theorem load_saved : Snapshot.load savedFiles "snapshot.json" = .ok savedSnapshot :=
  eq_ok_of_toOption (by decide +kernel)

set_option maxRecDepth 4000 in
/-- The two documents of the file, as they are scanned. -/
theorem documents_saved : Yaml.Document.ofString savedText = [
    { events := [.mappingStart none, .scalar ⟨"search", .plain, none⟩ none, .mappingStart none,
        .scalar ⟨"tag", .plain, none⟩ none, .scalar ⟨"dev", .plain, none⟩ none, .mappingEnd,
        .mappingEnd]
      isWhole := true },
    { events := [.mappingStart none, .scalar ⟨"title", .plain, none⟩ none,
        .scalar ⟨"Ops", .plain, none⟩ none, .scalar ⟨"search", .plain, none⟩ none,
        .mappingStart none, .scalar ⟨"tag", .plain, none⟩ none,
        .scalar ⟨"dev + ops", .plain, none⟩ none, .mappingEnd, .mappingEnd]
      isWhole := true }] := rfl

/-- The untitled search is named by its place, and the criteria are those that are saved. -/
theorem searches_saved : savedRequest.searches savedFiles = .ok [firstSaved, secondSaved] := by
  show (SavedSearch.parse "searches.yaml" savedText).map _ = _
  rw [SavedSearch.parse, documents_saved]
  -- nodes are put together by a recursion that does not compute, so it is unfolded
  simp only [SavedSearch.ofDocuments, SavedSearch.ofDocument, Yaml.Document.root, Yaml.ofEvents,
    Yaml.build, Yaml.build.put, Yaml.Collection.add, Yaml.Collection.close]
  rfl

/-- The first search is reported and the second does not resolve; a tag and a priority at
fault are told of the tag. -/
theorem run_outcome_saved :
    savedRequest.searches savedFiles = .ok [firstSaved, secondSaved] ∧
      (savedRequest.run {} savedFiles .earliest {} (some "snapshot.json")).outcome =
        (.error (.unresolved { name := "ops", pattern := "dev+ops" }),
          ["== Search 1 ==", "No matching tasks."]) ∧
      ∀ files path, (SearchRequest.run {} files .earliest {} path
        { criteria := { tag := some "+", priority := some "raised:" } }).outcome =
          (.error (.plan (.request (.tag "+" (.noPatterns .project)))), []) := by
  refine ⟨searches_saved, ?_, ?_⟩
  · obtain ⟨-, -, -, hPlanned⟩ :=
      run_outcome {} savedFiles .earliest {} (some "snapshot.json") savedRequest
    obtain ⟨-, -, hLoaded⟩ := hPlanned _ searches_saved (by decide)
    obtain ⟨hUnresolved, -⟩ := hLoaded "snapshot.json" savedSnapshot rfl load_saved
    obtain ⟨hOutcome, -⟩ := hUnresolved [firstSaved] secondSaved [] _ [⟨"dev"⟩] ⟨"ops"⟩ [] rfl
      (by unfold AskedSearch.Resolves; decide) rfl rfl (by decide) rfl
    rw [hOutcome]
    rfl
  · intro files path
    obtain ⟨hRefused, -, -, -⟩ := run_outcome {} files .earliest {} path
      { criteria := { tag := some "+", priority := some "raised:" } }
    exact hRefused _ rfl files {} path fun template hTemplate => by cases hTemplate

end SearchRequest

end TicketTrail
