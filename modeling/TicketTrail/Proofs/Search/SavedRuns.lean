import TicketTrail.Proofs.Json.FieldOrder
import TicketTrail.Proofs.Search.Outcome

/-!
# Saved searches, one by one

A run over a file of saved searches makes all plans, loads the snapshot once and shares
what it knows of it. None of that can be seen in the results. They are those of the
plain searches that the file stands for, one run for each, in order and under a
heading.

Main results:

* `SavedSearch.load_eq_ok_iff` — a file is read document by document, and the place of
  a document matters to its title only;
* `Criteria.merges_withDefaults` — what comes before what, field by field;
* `SearchRequest.run_saved_is_plain_runs` — a run over a file is a row of plain runs.
-/

namespace TicketTrail

theorem list_map_mapIdx {α β γ : Type} (l : List α) (f : Nat → α → β) (g : β → γ) :
    (l.mapIdx f).map g = l.mapIdx fun i a => g (f i a) := by
  rw [List.mapIdx_eq_zipIdx_map, List.mapIdx_eq_zipIdx_map, List.map_map]
  rfl

theorem list_flatten_mapIdx {α β : Type} (l : List α) (f : Nat → α → β) :
    (l.mapIdx fun i a => [f i a]).flatten = l.mapIdx f := by
  rw [← list_map_mapIdx l f fun b => [b], ← List.flatMap_def, List.flatMap_singleton']

/-! ## Documents -/

namespace SavedSearch

/-- Reads a document by itself, wherever it stands in its file. -/
def draftOf (d : Yaml.Document) : Except Fault Draft := do
  let draft ← foldPairs d (documentKey d) [] {} (← pairsOf d.root)
  if d.isWhole then return draft else .error .malformed

/-- The title of the search at the given place in its file. -/
def Draft.titleAt (number : Nat) (draft : Draft) : String :=
  draft.title.getD ("Search " ++ toString number)

/-- The search at the given place in its file. -/
def Draft.numbered (number : Nat) (draft : Draft) : SavedSearch where
  title := draft.titleAt number
  description := draft.description
  criteria := draft.criteria

/-- The text of the file is not blank, and its documents are read one by one. -/
def Holds (files : Files) (path : String) (drafts : List Draft) : Prop :=
  ∃ text, files.read path = .ok text ∧ Text.allBlank text = false ∧
    List.Forall₂ (fun d draft => draftOf d = .ok draft) (Yaml.Document.ofString text) drafts

/-- The place of a document in its file is used for its title only. -/
theorem ofDocument_eq (number : Nat) (d : Yaml.Document) :
    ofDocument number d = (draftOf d).map (Draft.numbered number) := by
  rw [ofDocument, draftOf]
  cases pairsOf d.root with
  | error e => rfl
  | ok pairs =>
    dsimp only [bind, Except.bind]
    -- that a document is whole is asked after its pairs were read, on both sides
    cases foldPairs d (documentKey d) [] {} pairs with
    | error e => rfl
    | ok draft => cases d.isWhole <;> rfl

theorem mapIdx_numbered_cons (number : Nat) (draft : Draft) (rest : List Draft) :
    ((draft :: rest).mapIdx fun i draft => draft.numbered (i + number)) =
      draft.numbered number :: rest.mapIdx fun i draft => draft.numbered (i + (number + 1)) := by
  rw [List.mapIdx_cons]
  simp only [Nat.zero_add, Nat.add_assoc, Nat.add_comm 1]

/-- Documents are read when each of them can be read by itself, and numbered as they
stand. -/
theorem ofDocuments_eq_ok_iff {path : String} {number : Nat} {documents : List Yaml.Document}
    {saved : List SavedSearch} :
    ofDocuments path number documents = .ok saved ↔
      ∃ drafts, List.Forall₂ (fun d draft => draftOf d = .ok draft) documents drafts ∧
        (drafts.mapIdx fun i draft => draft.numbered (i + number)) = saved := by
  -- the number grows with every document, so it varies
  induction documents generalizing number saved with
  | nil => simp [ofDocuments]
  | cons d rest ih =>
    rw [ofDocuments, ofDocument_eq]
    simp only [List.forall₂_cons_left_iff]
    cases hDraft : draftOf d with
    | error e => simp [Except.map]
    | ok draft =>
      show (ofDocuments path (number + 1) rest).map _ = _ ↔ _
      rw [map_eq_ok_iff]
      constructor
      · rintro ⟨others, hOthers, rfl⟩
        obtain ⟨drafts, hRest, rfl⟩ := ih.mp hOthers
        exact ⟨draft :: drafts, ⟨draft, drafts, rfl, hRest, rfl⟩, mapIdx_numbered_cons _ _ _⟩
      · rintro ⟨_, ⟨_, drafts, ⟨⟩, hRest, rfl⟩, rfl⟩
        exact ⟨_, ih.mpr ⟨drafts, hRest, rfl⟩, (mapIdx_numbered_cons _ _ _).symm⟩

/-- **A file is read document by document**, and the place of a document in it gives
the title of a search that has none. -/
theorem load_eq_ok_iff {files : Files} {path : String} {saved : List SavedSearch} :
    load files path = .ok saved ↔
      ∃ drafts, Holds files path drafts ∧
        (drafts.mapIdx fun i draft => draft.numbered (i + 1)) = saved := by
  rw [load]
  simp only [Holds]
  cases files.read path with
  | error fault => simp
  | ok text =>
    cases hBlank : Text.allBlank text with
    | true => simp [parse, hBlank]
    | false =>
      simp only [parse, hBlank, Bool.false_eq_true, if_false, ofDocuments_eq_ok_iff,
        Except.ok.injEq, exists_eq_left', true_and]

end SavedSearch

/-! ## Criteria -/

namespace Criteria

/-- The value is the one given, or else the one that is saved. -/
def Overrides {α : Type} (own saved merged : Option α) : Prop :=
  ∀ a, merged = some a ↔ own = some a ∨ own = none ∧ saved = some a

/-- The criteria are `own`, with those of `saved` where there are none; what either
shows is shown. -/
structure Merges (own saved merged : Criteria) : Prop where
  column : Overrides own.column saved.column merged.column
  priority : Overrides own.priority saved.priority merged.priority
  status : Overrides own.status saved.status merged.status
  tag : Overrides own.tag saved.tag merged.tag
  query : Overrides own.query saved.query merged.query
  createdAfter : Overrides own.createdAfter saved.createdAfter merged.createdAfter
  updatedAfter : Overrides own.updatedAfter saved.updatedAfter merged.updatedAfter
  showHistory : merged.showHistory = true ↔ own.showHistory = true ∨ saved.showHistory = true
  showMetadata : merged.showMetadata = true ↔ own.showMetadata = true ∨ saved.showMetadata = true

/-- What is there comes before what is saved. -/
theorem overrides_orElse {α : Type} (own saved : Option α) :
    Overrides own saved (own <|> saved) := by
  intro a
  cases own <;> simp

/-- What is asked for comes before what is saved, field by field. -/
theorem merges_withDefaults (own saved : Criteria) : Merges own saved (own.withDefaults saved) where
  column := overrides_orElse _ _
  priority := overrides_orElse _ _
  status := overrides_orElse _ _
  tag := overrides_orElse _ _
  query := overrides_orElse _ _
  createdAfter := overrides_orElse _ _
  updatedAfter := overrides_orElse _ _
  showHistory := by simp [withDefaults]
  showMetadata := by simp [withDefaults]

end Criteria

/-! ## Reports -/

namespace Plan

variable {console : Console}

/-- The reports of a row of plans, of which all but the first have an empty line before
them. -/
theorem reports_eq_flatten (catalog : Catalog) (tickets : List Ticket) (isFirst : Bool)
    (plans : List Plan) :
    reports console catalog tickets isFirst plans =
      (plans.mapIdx fun i plan =>
        (plan.report console (isFirst && i == 0) (plan.hits catalog tickets)).results).flatten := by
  -- past the first plan the flag is off, whatever it was
  induction plans generalizing isFirst with
  | nil => rfl
  | cons plan rest ih =>
    rw [reports, ih, List.mapIdx_cons, List.flatten_cons]
    simp

/-- Criteria that can be planned and carried out have no fault, and their tag resolves. -/
theorem faults_eq_nil_and_resolves {now : Instant} {heading : Option Heading} {c : Criteria}
    {plan : Plan} {catalog : Catalog} {s : Search} (hPlan : ofCriteria now heading c = .ok plan)
    (hSearch : plan.search catalog = .ok s) :
    c.faults = [] ∧ ∀ other, (AskedSearch.mk other c).Resolves catalog := by
  rw [ofCriteria_eq, unlessFault_eq_ok_iff, List.head?_eq_none_iff] at hPlan
  obtain ⟨hFaults, rfl⟩ := hPlan
  -- the plan is the reading of its criteria, so its tag is theirs
  rw [search_eq, unlessFault_eq_ok_iff] at hSearch
  exact ⟨hFaults, fun _ => unresolved?_eq_none_iff.mp hSearch.1⟩

end Plan

/-! ## Runs -/

section Runs

variable (console : Console) (now : Instant) (settings : Settings) (snapshot : Snapshot)

/-- What is reported for criteria, under a heading or without one. -/
def Criteria.reported (c : Criteria) (heading : Option Heading) (isFirst : Bool) : List String :=
  let plan := Plan.reading now heading c
  (plan.report console isFirst
    (plan.hits (Catalog.ofSnapshot snapshot settings) snapshot.tickets)).results

variable {console}

/-- As text, a heading stands before what is reported without one. -/
theorem Criteria.reported_text (hFormat : console.format = .text) (c : Criteria) (heading : Heading)
    (isFirst : Bool) :
    c.reported console now settings snapshot (some heading) isFirst =
      Plan.headingLines isFirst heading ++ c.reported console now settings snapshot none true := by
  simp only [reported, Plan.report, Plan.reading, Console.report, hFormat]
  rfl

/-- In JSON the value that is reported without a heading stands, with its fields in
order, in the object that is reported with one. -/
theorem Criteria.exists_reported_json (hFormat : console.format = .json) (c : Criteria) :
    ∃ value : Json, value.DistinctNames ∧
      c.reported console now settings snapshot none true = [value.text] ∧
      ∀ heading isFirst, c.reported console now settings snapshot (some heading) isFirst =
        [(Json.object [("description", .ofOption heading.description), ("tasks", value.sortKeys),
          ("title", .string heading.title)]).text] := by
  let hits := (Plan.reading now none c).hits (Catalog.ofSnapshot snapshot settings) snapshot.tickets
  refine ⟨Hit.allToJson hits, Hit.distinctNames_allToJson hits, ?_, fun heading isFirst => ?_⟩
  · simp only [reported, Plan.report, Plan.reading, Console.report, hFormat]
    rfl
  · have hDescription : Json.sortKeys (.ofOption heading.description) =
        .ofOption heading.description := by
      cases heading.description <;> rfl
    have hSort : Json.sortKeys (.object [("title", .string heading.title),
        ("description", .ofOption heading.description), ("tasks", Hit.allToJson hits)]) =
        .object [("description", .ofOption heading.description),
          ("tasks", (Hit.allToJson hits).sortKeys), ("title", .string heading.title)] := by
      have hTasks : ("description" : String) < "tasks" := by decide
      have hTitle : ¬ ("title" : String) < "description" ∧ ¬ ("title" : String) < "tasks" := by
        decide
      simp only [Json.sortKeys, Json.sortKeysFields, Json.insertField, hDescription, if_pos hTasks,
        if_neg hTitle.1, if_neg hTitle.2]
    -- the report under a heading is sorted as one object, the tasks in it as well
    rw [← hSort]
    simp only [reported, Plan.report, Plan.reading, Console.report, hFormat]
    rfl

namespace SearchRequest

/-- The searches of a file, numbered as its documents stand. -/
theorem searches_of_holds {files : Files} {template : String} {drafts : List SavedSearch.Draft}
    (own : Criteria) (hHolds : SavedSearch.Holds files template drafts) :
    SearchRequest.searches files { criteria := own, template := some template } =
      .ok (drafts.mapIdx fun i draft => AskedSearch.ofSaved own (draft.numbered (i + 1))) := by
  show (SavedSearch.load files template).map (List.map (AskedSearch.ofSaved own)) = _
  rw [SavedSearch.load_eq_ok_iff.mpr ⟨drafts, hHolds, rfl⟩]
  -- numbering and putting the own criteria first commute
  exact congrArg Except.ok (list_map_mapIdx _ _ _)

variable {now settings snapshot} {files : Files} {path : String}
  (hLoad : Snapshot.load files path = .ok snapshot)

include hLoad

/-- The results of a plain search. -/
theorem run_plain {c : Criteria} {plan : Plan} {s : Search}
    (hPlan : Plan.ofCriteria now none c = .ok plan)
    (hSearch : plan.search (Catalog.ofSnapshot snapshot settings) = .ok s) :
    (SearchRequest.run console files now settings (some path) { criteria := c }).outcome =
      (.ok (), c.reported console now settings snapshot none true) := by
  obtain ⟨hFaults, hResolves⟩ := Plan.faults_eq_nil_and_resolves hPlan hSearch
  rw [run_of_resolves console now settings rfl (by simpa using hFaults) hLoad
    (by simpa using hResolves none)]
  simp only [List.map_cons, List.map_nil, Plan.reports, List.append_nil]
  rfl

section Saved

variable {template : String} {drafts : List SavedSearch.Draft} {own : Criteria}
  (hHolds : SavedSearch.Holds files template drafts)
  (hPlans : ∀ draft ∈ drafts, ∃ plan s,
    Plan.ofCriteria now none (own.withDefaults draft.criteria) = .ok plan ∧
      plan.search (Catalog.ofSnapshot snapshot settings) = .ok s)

include hHolds hPlans

/-- The results of a run over a file. -/
theorem run_saved :
    (SearchRequest.run console files now settings (some path)
      { criteria := own, template := some template }).outcome =
      (.ok (), (drafts.mapIdx fun i draft =>
        (own.withDefaults draft.criteria).reported console now settings snapshot
          (some ⟨draft.titleAt (i + 1), draft.description⟩) (i == 0)).flatten) := by
  have hEach : ∀ s ∈ drafts.mapIdx fun i draft => AskedSearch.ofSaved own (draft.numbered (i + 1)),
      s.criteria.faults = [] ∧ s.Resolves (Catalog.ofSnapshot snapshot settings) := by
    intro s hs
    obtain ⟨i, hi, rfl⟩ := List.mem_mapIdx.mp hs
    obtain ⟨plan, search, hPlan, hSearch⟩ := hPlans drafts[i] (List.getElem_mem hi)
    -- the plan was made without a heading, but faults and tags do not depend on it
    obtain ⟨hFaults, hResolves⟩ := Plan.faults_eq_nil_and_resolves hPlan hSearch
    exact ⟨hFaults, hResolves _⟩
  rw [run_of_resolves console now settings (searches_of_holds own hHolds)
    (fun s hs => (hEach s hs).1) hLoad (fun s hs => (hEach s hs).2), Plan.reports_eq_flatten,
    list_map_mapIdx, List.mapIdx_mapIdx]
  rfl

end Saved

end SearchRequest

end Runs

namespace SearchRequest

/-- **A run over a file of saved searches is a row of plain runs**, one for each document
of the file, with what the request asks for before what is saved there. As text the
results are those of the plain runs, each under its title and its description; in JSON
each is put into an object with them, and is the same value there. -/
theorem run_saved_is_plain_runs (console : Console) {files : Files} (now : Instant)
    (settings : Settings) {template path : String} {drafts : List SavedSearch.Draft}
    {snapshot : Snapshot} (own : Criteria) (hHolds : SavedSearch.Holds files template drafts)
    (hLoad : Snapshot.load files path = .ok snapshot)
    (hPlans : ∀ draft ∈ drafts, ∃ plan s,
      Plan.ofCriteria now none (own.withDefaults draft.criteria) = .ok plan ∧
        plan.search (Catalog.ofSnapshot snapshot settings) = .ok s) :
    let run := SearchRequest.run console files now settings (some path)
      { criteria := own, template := some template }
    let plain := fun draft : SavedSearch.Draft =>
      SearchRequest.run console files now settings (some path)
        { criteria := own.withDefaults draft.criteria }
    run.result = .ok () ∧
      (∀ draft ∈ drafts, (plain draft).result = .ok () ∧
        own.Merges draft.criteria (own.withDefaults draft.criteria)) ∧
      (console.format = .text → run.printed.results = (drafts.mapIdx fun i draft =>
        (if i = 0 then [] else [""]) ++ ["== " ++ draft.titleAt (i + 1) ++ " =="] ++
          draft.description.toList ++ (plain draft).printed.results).flatten) ∧
      (console.format = .json → ∃ tasks : SavedSearch.Draft → Json,
        run.printed.results = (drafts.mapIdx fun i draft =>
          (Json.object [("description", .ofOption draft.description), ("tasks", tasks draft),
            ("title", .string (draft.titleAt (i + 1)))]).text) ∧
        ∀ draft ∈ drafts, ∃ value : Json, (plain draft).printed.results = [value.text] ∧
          value.SameValue (tasks draft)) := by
  intro run plain
  have hRun : run.outcome = _ := run_saved hLoad hHolds hPlans
  have hResults : run.printed.results = _ := congrArg Prod.snd hRun
  have hPlain : ∀ draft ∈ drafts, (plain draft).outcome = (.ok (),
      (own.withDefaults draft.criteria).reported console now settings snapshot none true) := by
    intro draft hDraft
    obtain ⟨plan, s, hPlan, hSearch⟩ := hPlans draft hDraft
    exact run_plain hLoad hPlan hSearch
  have hPlainResults : ∀ draft ∈ drafts, (plain draft).printed.results = _ :=
    fun draft hDraft => congrArg Prod.snd (hPlain draft hDraft)
  refine ⟨congrArg Prod.fst hRun, fun draft hDraft => ⟨congrArg Prod.fst (hPlain draft hDraft),
    Criteria.merges_withDefaults own draft.criteria⟩, fun hFormat => ?_, fun hFormat => ?_⟩
  · rw [hResults]
    -- place by place: the heading, and below it what the plain run prints
    refine congrArg List.flatten (List.mapIdx_eq_mapIdx_iff.mpr fun i hi => ?_)
    rw [hPlainResults drafts[i] (List.getElem_mem hi), Criteria.reported_text _ _ _ hFormat]
    cases i <;> rfl
  · -- the value depends on the criteria alone, so the two runs share it
    choose value hOnce hValue hHeaded using
      Criteria.exists_reported_json now settings snapshot hFormat
    refine ⟨fun draft => (value (own.withDefaults draft.criteria)).sortKeys, ?_,
      fun draft hDraft => ⟨_, (hPlainResults draft hDraft).trans (hValue _),
        (hOnce _).sameValue_sortKeys⟩⟩
    rw [hResults]
    simp only [hHeaded, list_flatten_mapIdx]

/-- The saved searches, each read by itself. -/
def savedDrafts : List SavedSearch.Draft :=
  [{ criteria := { tag := some "dev" } },
    { title := some "Ops", criteria := { tag := some "dev + ops" } }]

/-- The file of saved searches, document by document. -/
theorem holds_saved : SavedSearch.Holds savedFiles "searches.yaml" savedDrafts := by
  refine ⟨savedText, rfl, by decide, ?_⟩
  rw [documents_saved]
  refine .cons ?_ (.cons ?_ .nil) <;>
  · -- as for the whole file, the recursion that builds nodes is unfolded
    simp only [SavedSearch.draftOf, Yaml.Document.root, Yaml.ofEvents, Yaml.build, Yaml.build.put,
      Yaml.Collection.add, Yaml.Collection.close]
    rfl

/-- The second of the searches cannot be carried out as it is saved, but its tag gives
way to that of the request. -/
theorem run_saved_is_plain_runs_tagged :
    let own : Criteria := { tag := some "dev" }
    let plain := SearchRequest.run {} savedFiles .earliest {} (some "snapshot.json")
      { criteria := own }
    SavedSearch.Holds savedFiles "searches.yaml" savedDrafts ∧
      Snapshot.load savedFiles "snapshot.json" = .ok savedSnapshot ∧
      (∀ draft ∈ savedDrafts, own.withDefaults draft.criteria = own) ∧
      (SearchRequest.run {} savedFiles .earliest {} (some "snapshot.json")
        { criteria := own, template := some "searches.yaml" }).printed.results =
        ["== Search 1 =="] ++ plain.printed.results ++
          (["", "== Ops =="] ++ plain.printed.results) := by
  intro own plain
  have hOwn : ∀ draft ∈ savedDrafts, own.withDefaults draft.criteria = own := by decide
  have hPlan : Plan.ofCriteria .earliest none own = .ok (.reading .earliest none own) := rfl
  obtain ⟨s, hSearch⟩ : ∃ s, (Plan.reading .earliest none own).search
      (Catalog.ofSnapshot savedSnapshot {}) = .ok s := by
    rw [Plan.search_eq, Plan.unresolved?_eq_none_iff.mpr (by decide)]
    exact ⟨_, rfl⟩
  have hPlans : ∀ draft ∈ savedDrafts, ∃ plan s,
      Plan.ofCriteria .earliest none (own.withDefaults draft.criteria) = .ok plan ∧
        plan.search (Catalog.ofSnapshot savedSnapshot {}) = .ok s := by
    intro draft hDraft
    rw [hOwn draft hDraft]
    exact ⟨_, s, hPlan, hSearch⟩
  obtain ⟨-, -, hText, -⟩ :=
    run_saved_is_plain_runs {} .earliest {} own holds_saved load_saved hPlans
  refine ⟨holds_saved, load_saved, hOwn, (hText rfl).trans ?_⟩
  have hFirst : "== " ++ SavedSearch.Draft.titleAt 1 { criteria := { tag := some "dev" } } ++
      " ==" = "== Search 1 ==" := by decide
  have hSecond : own.withDefaults { tag := some "dev + ops" } = own := rfl
  -- what is left is to write the two parts out
  simp only [savedDrafts, List.mapIdx_cons, List.mapIdx_nil, List.flatten_cons, List.flatten_nil,
    List.append_nil, Option.toList_none, Nat.zero_add, hFirst, hSecond]
  rfl

end SearchRequest

end TicketTrail
