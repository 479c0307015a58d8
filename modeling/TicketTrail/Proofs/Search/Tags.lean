import TicketTrail.Proofs.Project.Reading
import TicketTrail.Proofs.Search.Results
import TicketTrail.Proofs.Search.Workboards

/-!
# Alternatives in a tag

A tag does two things. It asks for projects of the ticket, and it names the boards on
which columns are looked at: those of all its alternatives, whichever of them the
ticket has. So the comma in a tag is *or* on the tickets it asks for, but with column
patterns more can be found. A ticket that has one alternative only can match on a
board of the other, and with a negated condition it matches on any board it was never
on.

What more is found is said of tags of workboards only (`Catalog.OnBoards`), whose
projects all have columns. That nothing is lost is true of all tags, and so is the
statement on searches without column patterns.

Main results:

* `Filters.passed_union_iff` — what passes a union of two tags of workboards;
* `Plan.ticketsFound_comma` — what is found for two tags joined by a comma;
* `Plan.comma_tag_finds_more` — a ticket found for two tags, and for neither.
-/

namespace TicketTrail

/-! ## Tags and boards -/

theorem ProjectPatternSet.names_union (A B : ProjectPatternSet) :
    (A.union B).names = A.names ++ B.names := by
  rw [names, union, NonEmpty.toList_append, List.flatMap_append]
  rfl

namespace Catalog

variable (catalog : Catalog) (t : Ticket)

/-- Each name of some pattern of the tag stands for a project of the ticket. -/
def HasTag (tag : ProjectPatternSet) : Prop :=
  ∃ p ∈ tag.patterns.toList, ∀ name ∈ p.names.toList,
    ∃ id ∈ catalog.resolve name.raw, id ∈ t.projects

/-- Every project that a name in the tag stands for is a workboard. -/
def OnBoards (tag : ProjectPatternSet) : Prop :=
  ∀ name ∈ tag.names, ∀ id ∈ catalog.resolve name.raw, (catalog.board? id).isSome = true

/-- Some column pattern of the set holds on a workboard of the tag, that is, on a board
of the catalog that a name in the tag stands for. -/
def ColumnsHold (set : PatternSet) (tag : ProjectPatternSet) : Prop :=
  ∃ name ∈ tag.names, ∃ board ∈ catalog.resolve name.raw, (catalog.board? board).isSome = true ∧
    ∃ p ∈ set.patterns.toList, catalog.columnHolds t board p = true

variable {catalog t} {A B : ProjectPatternSet}

/-- A ticket has a union of tags when it has one of them. -/
theorem hasTag_union : catalog.HasTag t (A.union B) ↔ catalog.HasTag t A ∨ catalog.HasTag t B := by
  simp only [HasTag, ProjectPatternSet.union, NonEmpty.toList_append, List.mem_append, or_and_right,
    exists_or]

theorem onBoards_union :
    catalog.OnBoards (A.union B) ↔ catalog.OnBoards A ∧ catalog.OnBoards B := by
  rw [OnBoards, ProjectPatternSet.names_union, List.forall_mem_append]
  rfl

/-- The boards of a union of tags are those of both. -/
theorem columnsHold_union {set : PatternSet} :
    catalog.ColumnsHold t set (A.union B) ↔
      catalog.ColumnsHold t set A ∨ catalog.ColumnsHold t set B := by
  simp only [ColumnsHold, ProjectPatternSet.names_union, List.mem_append, or_and_right, exists_or]

end Catalog

namespace Filters

variable (f : Filters)

/-- The filters with the given tag in place of their own. -/
def withTag (tag : ProjectPatternSet) : Filters :=
  { f with tag := some tag }

/-- The filters but for the tag and the columns. -/
def beside : Filters :=
  { f with tag := none, column := none }

/-- The ticket has the one tag and not the other, but its columns match on workboards
of the other tag only. -/
@[mk_iff]
structure Borrows (catalog : Catalog) (t : Ticket) (own other : ProjectPatternSet) : Prop where
  beside : f.beside.Passed catalog t
  hasOwn : catalog.HasTag t own
  lacksOther : ¬ catalog.HasTag t other
  column : ∃ set ∈ f.column, ¬ catalog.ColumnsHold t set own ∧ catalog.ColumnsHold t set other

variable {f} {catalog : Catalog} {t : Ticket} {tag A B : ProjectPatternSet}

/-- What the filters' own tag is does not matter. -/
theorem borrows_withTag_iff :
    (f.withTag tag).Borrows catalog t A B ↔ f.Borrows catalog t A B := by
  rw [borrows_iff, borrows_iff]
  rfl

theorem mem_candidates_withTag {board : String} :
    board ∈ (f.withTag tag).candidates catalog t ↔
      ∃ name ∈ tag.names, board ∈ catalog.resolve name.raw := by
  rw [candidates, withTag, Text.mem_sortedSet, List.mem_flatMap]

/-- With a tag, a ticket passes when it has the tag, its columns match on a candidate,
and it passes the other filters. -/
theorem passed_withTag_iff :
    (f.withTag tag).Passed catalog t ↔ f.beside.Passed catalog t ∧ catalog.HasTag t tag ∧
      ∀ set ∈ f.column, ∃ board ∈ (f.withTag tag).candidates catalog t,
        ∃ p ∈ set.patterns.toList, catalog.columnHolds t board p = true := by
  -- the other filters are the same on both sides, field by field
  constructor
  · intro h
    exact ⟨⟨h.query, h.created, h.updated, nofun, nofun, h.priority, h.status⟩,
      h.tag tag rfl, h.column⟩
  · rintro ⟨h, hTag, hColumns⟩
    refine ⟨h.query, h.created, h.updated, ?_, hColumns, h.priority, h.status⟩
    rintro _ ⟨⟩
    exact hTag

/-- A wider tag, which the ticket has as well and which names all the boards, finds what
the narrower one finds. -/
theorem passed_withTag_of_wider {wide : ProjectPatternSet}
    (hTag : catalog.HasTag t tag → catalog.HasTag t wide) (hNames : tag.names ⊆ wide.names)
    (h : (f.withTag tag).Passed catalog t) : (f.withTag wide).Passed catalog t := by
  obtain ⟨hBeside, hHas, hColumn⟩ := passed_withTag_iff.mp h
  refine passed_withTag_iff.mpr ⟨hBeside, hTag hHas, fun set hSet => ?_⟩
  obtain ⟨board, hBoard, hHolds⟩ := hColumn set hSet
  obtain ⟨name, hName, hResolve⟩ := mem_candidates_withTag.mp hBoard
  exact ⟨board, mem_candidates_withTag.mpr ⟨name, hNames hName, hResolve⟩, hHolds⟩

/-- What passes one tag passes its union with another. -/
theorem passed_union_of_passed
    (h : (f.withTag A).Passed catalog t ∨ (f.withTag B).Passed catalog t) :
    (f.withTag (A.union B)).Passed catalog t := by
  have hNames := ProjectPatternSet.names_union A B
  rcases h with h | h
  · refine passed_withTag_of_wider (fun hA => Catalog.hasTag_union.mpr (Or.inl hA)) ?_ h
    rw [hNames]
    exact List.subset_append_left _ _
  · refine passed_withTag_of_wider (fun hB => Catalog.hasTag_union.mpr (Or.inr hB)) ?_ h
    rw [hNames]
    exact List.subset_append_right _ _

/-- Without column patterns, what passes a union of tags passes one of them. -/
theorem passed_union_iff_of_no_column (hColumn : f.column = none) :
    (f.withTag (A.union B)).Passed catalog t ↔
      (f.withTag A).Passed catalog t ∨ (f.withTag B).Passed catalog t := by
  -- then the boards that a tag names do not matter, and having a union is having one
  simp only [passed_withTag_iff, Catalog.hasTag_union, hColumn, Option.mem_def, reduceCtorEq,
    false_implies, implies_true, and_true, and_or_left]

/-- On a tag of workboards the columns are looked at on its workboards. -/
theorem passed_withTag_iff_columnsHold (hBoards : catalog.OnBoards tag) :
    (f.withTag tag).Passed catalog t ↔ f.beside.Passed catalog t ∧ catalog.HasTag t tag ∧
      ∀ set ∈ f.column, catalog.ColumnsHold t set tag := by
  have hColumn : ∀ set : PatternSet,
      (∃ board ∈ (f.withTag tag).candidates catalog t, ∃ p ∈ set.patterns.toList,
        catalog.columnHolds t board p = true) ↔ catalog.ColumnsHold t set tag := by
    intro set
    simp only [mem_candidates_withTag, Catalog.ColumnsHold]
    constructor
    · -- a candidate comes from a name of the tag, and so it is a workboard
      rintro ⟨board, ⟨name, hName, hBoard⟩, hHolds⟩
      exact ⟨name, hName, board, hBoard, hBoards name hName board hBoard, hHolds⟩
    · rintro ⟨name, hName, board, hBoard, -, hHolds⟩
      exact ⟨board, ⟨name, hName, hBoard⟩, hHolds⟩
  simp only [passed_withTag_iff, hColumn]

/-- **A ticket passes a union of tags of workboards** when it passes one of them, or when
it has one of them and its columns match on a workboard of the other. -/
theorem passed_union_iff (hA : catalog.OnBoards A) (hB : catalog.OnBoards B) :
    (f.withTag (A.union B)).Passed catalog t ↔
      (f.withTag A).Passed catalog t ∨ (f.withTag B).Passed catalog t ∨
        f.Borrows catalog t A B ∨ f.Borrows catalog t B A := by
  rw [passed_withTag_iff_columnsHold (Catalog.onBoards_union.mpr ⟨hA, hB⟩),
    passed_withTag_iff_columnsHold hA, passed_withTag_iff_columnsHold hB, borrows_iff, borrows_iff]
  simp only [Catalog.hasTag_union, Catalog.columnsHold_union]
  cases f.column with
  | none => simp [and_or_left]
  | some set =>
    -- on both sides the ticket has one of the tags and matches on a board of one
    simp only [Option.mem_def, Option.some.injEq, forall_eq', exists_eq_left']
    tauto

end Filters

/-! ## Texts of tags -/

/-- A tag of two alternatives is not the tag `*`. -/
theorem Text.trim_comma_ne_star (a b : String) : Text.trim (a ++ "," ++ b) ≠ "*" := by
  intro hStar
  have hMiddle : Text.trimChars (a ++ "," ++ b).toList = ['*'] :=
    String.ofList_injective hStar
  obtain ⟨before, after, hText, hBefore, hAfter⟩ :=
    Text.trimChars_surrounded (a ++ "," ++ b).toList
  have hComma : ',' ∈ (a ++ "," ++ b).toList := by simp
  -- the comma is neither blank nor the star
  rw [hText, hMiddle, List.mem_append, List.mem_append] at hComma
  rcases hComma with (h | h) | h
  · exact absurd (hBefore _ h) (by decide)
  · exact absurd h (by decide)
  · exact absurd (hAfter _ h) (by decide)

namespace Criteria

/-- The fault of the tag comes before those of the other criteria. -/
theorem textFaults_eq_append (c : Criteria) :
    c.textFaults = c.tagFault?.toList ++ { c with tag := none }.textFaults := by
  rw [textFaults]
  cases c.tagFault? <;> rfl

theorem tagFault?_eq_none_iff {c : Criteria} {text : String} (hTag : c.tag = some text)
    (hStar : Text.trim text ≠ "*") :
    c.tagFault? = none ↔ ∃ tag, ProjectPatternSet.parse text = .ok tag := by
  rw [tagFault?, hTag, Option.bind_some, if_neg hStar, ProjectPatternSet.parse_trim]
  cases ProjectPatternSet.parse text <;> simp [fault?]

end Criteria

namespace Plan

/-- The plan with the given tag in place of its own. -/
def withTag (plan : Plan) (tag : ProjectPatternSet) : Plan :=
  { plan with filters := plan.filters.withTag tag }

/-- What is read for a tag other than `*` is the tag, and beside it what is read anyway. -/
theorem reading_withTag {text : String} {tag : ProjectPatternSet}
    (hTag : ProjectPatternSet.parse text = .ok tag) (hStar : Text.trim text ≠ "*") (now : Instant)
    (heading : Option Heading) (c : Criteria) :
    reading now heading { c with tag := some text } = (reading now heading c).withTag tag := by
  have hSet : Criteria.tagSet? { c with tag := some text } = some tag := by
    rw [Criteria.tagSet?, Option.bind_some, if_neg hStar, ProjectPatternSet.parse_trim, hTag]
    rfl
  rw [reading, Criteria.filters, hSet]
  rfl

/-- With a tag that is read, a plan is made when the tag can be read and nothing is wrong
with the other criteria. -/
theorem ofCriteria_tag_eq_ok_iff {now : Instant} {heading : Option Heading} {c : Criteria}
    {text : String} {plan : Plan} (hStar : Text.trim text ≠ "*") :
    ofCriteria now heading { c with tag := some text } = .ok plan ↔
      { c with tag := none }.textFaults = [] ∧ ∃ tag, ProjectPatternSet.parse text = .ok tag ∧
        plan = (reading now heading c).withTag tag := by
  -- a tag is a criterion, so that there are none is no fault here
  have hAny : Criteria.any { c with tag := some text } = true := by simp [Criteria.any]
  rw [ofCriteria_eq, unlessFault_eq_ok_iff, List.head?_eq_none_iff, Criteria.faults, if_pos hAny,
    List.nil_append, Criteria.textFaults_eq_append, List.append_eq_nil_iff,
    Option.toList_eq_nil_iff, Criteria.tagFault?_eq_none_iff rfl hStar]
  constructor
  · rintro ⟨⟨⟨tag, hTag⟩, hOthers⟩, rfl⟩
    exact ⟨hOthers, tag, hTag, reading_withTag hTag hStar now heading c⟩
  · rintro ⟨hOthers, tag, hTag, rfl⟩
    exact ⟨⟨⟨tag, hTag⟩, hOthers⟩, reading_withTag hTag hStar now heading c⟩

/-- The tickets that a plan finds, unless a name in its tag stands for no project. -/
def ticketsFound (plan : Plan) (catalog : Catalog) (tickets : List Ticket) :
    Except UnresolvedProject (List Ticket) :=
  (plan.search catalog).map fun s => (found s tickets).map Prod.fst

/-- What is found are the tickets that pass, once the tag resolves. -/
theorem ticketsFound_eq (plan : Plan) (catalog : Catalog) (tickets : List Ticket) :
    plan.ticketsFound catalog tickets =
      unlessFault (plan.unresolved? catalog)
        (tickets.filter fun t => plan.filters.Passed catalog t) := by
  rw [ticketsFound, search_eq]
  cases hFault : plan.unresolved? catalog with
  | some e => rfl
  | none =>
    show Except.ok ((found (plan.filters.against catalog) tickets).map Prod.fst) = _
    rw [found_against (unresolved?_eq_none_iff.mp hFault), List.map_map, unlessFault_none]
    exact congrArg Except.ok (List.map_id' _)

/-- A plan with a tag finds something definite when each name in the tag stands for a
project. -/
theorem ticketsFound_withTag_eq_ok_iff {plan : Plan} {tag : ProjectPatternSet} {catalog : Catalog}
    {tickets found : List Ticket} :
    (plan.withTag tag).ticketsFound catalog tickets = .ok found ↔
      (∀ name ∈ tag.names, catalog.resolve name.raw ≠ []) ∧
        (tickets.filter fun t => (plan.filters.withTag tag).Passed catalog t) = found := by
  rw [ticketsFound_eq, unlessFault_eq_ok_iff, unresolved?_eq_none_iff]
  refine and_congr_left' ⟨fun h => h tag rfl, ?_⟩
  -- the tag of the plan is the one given
  rintro h _ ⟨⟩
  exact h

/-- What is found for a union of tags, by what is found for each. -/
theorem ticketsFound_union {plan : Plan} {A B : ProjectPatternSet} {catalog : Catalog}
    {tickets foundA foundB : List Ticket}
    (hA : (plan.withTag A).ticketsFound catalog tickets = .ok foundA)
    (hB : (plan.withTag B).ticketsFound catalog tickets = .ok foundB) :
    ∃ found, (plan.withTag (A.union B)).ticketsFound catalog tickets = .ok found ∧
      (∀ t, t ∈ foundA ∨ t ∈ foundB → t ∈ found) ∧
      (plan.filters.column = none → found = tickets.filter fun t => t ∈ foundA ∨ t ∈ foundB) ∧
      (catalog.OnBoards A → catalog.OnBoards B →
        ∀ t, t ∈ found ↔ t ∈ foundA ∨ t ∈ foundB ∨ t ∈ tickets ∧
          ((plan.withTag (A.union B)).filters.Borrows catalog t A B ∨
            (plan.withTag (A.union B)).filters.Borrows catalog t B A)) := by
  obtain ⟨hResolveA, rfl⟩ := ticketsFound_withTag_eq_ok_iff.mp hA
  obtain ⟨hResolveB, rfl⟩ := ticketsFound_withTag_eq_ok_iff.mp hB
  -- the union has the names of both, so it resolves when they do
  have hResolve : ∀ name ∈ (A.union B).names, catalog.resolve name.raw ≠ [] := by
    rw [ProjectPatternSet.names_union]
    exact List.forall_mem_append.mpr ⟨hResolveA, hResolveB⟩
  refine ⟨_, ticketsFound_withTag_eq_ok_iff.mpr ⟨hResolve, rfl⟩, fun t hFound => ?_,
    fun hColumn => ?_, fun hBoardsA hBoardsB t => ?_⟩
  · simp only [List.mem_filter, decide_eq_true_eq, ← and_or_left] at hFound ⊢
    exact ⟨hFound.1, Filters.passed_union_of_passed hFound.2⟩
  · refine List.filter_congr fun t hMem => ?_
    simp only [List.mem_filter, hMem, true_and, decide_eq_true_eq,
      Filters.passed_union_iff_of_no_column hColumn]
  · have hSame : (plan.withTag (A.union B)).filters = plan.filters.withTag (A.union B) := rfl
    simp only [hSame, Filters.borrows_withTag_iff, List.mem_filter, decide_eq_true_eq,
      Filters.passed_union_iff hBoardsA hBoardsB, and_or_left]

/-- **The comma in a tag is *or*, but for the boards.** Where two tags can be searched
by, so can both joined by a comma. What either finds is found, and without column
patterns nothing else. With column patterns, and tags whose projects are all
workboards, a ticket is found besides when it has one of the tags, passes the other
filters, and its columns match only on workboards of the other tag. -/
theorem ticketsFound_comma {snapshot : Snapshot} {settings : Settings} {now : Instant}
    {heading : Option Heading} {c : Criteria} {a b : String} {planA planB : Plan}
    {foundA foundB : List Ticket} (hA : Text.trim a ≠ "*") (hB : Text.trim b ≠ "*")
    (hPlanA : ofCriteria now heading { c with tag := some a } = .ok planA)
    (hPlanB : ofCriteria now heading { c with tag := some b } = .ok planB)
    (hFoundA : planA.ticketsFound (Catalog.ofSnapshot snapshot settings) snapshot.tickets =
      .ok foundA)
    (hFoundB : planB.ticketsFound (Catalog.ofSnapshot snapshot settings) snapshot.tickets =
      .ok foundB) :
    let catalog := Catalog.ofSnapshot snapshot settings
    ∃ A B plan found, planA.filters.tag = some A ∧ planB.filters.tag = some B ∧
      ofCriteria now heading { c with tag := some (a ++ "," ++ b) } = .ok plan ∧
      plan.ticketsFound catalog snapshot.tickets = .ok found ∧
      (∀ t, t ∈ foundA ∨ t ∈ foundB → t ∈ found) ∧
      (c.column = none → found = snapshot.tickets.filter fun t => t ∈ foundA ∨ t ∈ foundB) ∧
      ((∀ name ∈ A.names ++ B.names, ∀ board ∈ catalog.resolve name.raw,
          snapshot.IsWorkboard board) →
        ∀ t, t ∈ found ↔ t ∈ foundA ∨ t ∈ foundB ∨ t ∈ snapshot.tickets ∧
          (plan.filters.Borrows catalog t A B ∨ plan.filters.Borrows catalog t B A)) := by
  intro catalog
  obtain ⟨hOthers, A, hParseA, rfl⟩ := (ofCriteria_tag_eq_ok_iff hA).mp hPlanA
  obtain ⟨-, B, hParseB, rfl⟩ := (ofCriteria_tag_eq_ok_iff hB).mp hPlanB
  have hPlan : ofCriteria now heading { c with tag := some (a ++ "," ++ b) } =
      .ok ((reading now heading c).withTag (A.union B)) :=
    (ofCriteria_tag_eq_ok_iff (Text.trim_comma_ne_star a b)).mpr
      ⟨hOthers, _, ProjectPatternSet.parse_comma hParseA hParseB, rfl⟩
  obtain ⟨found, hFound, hEither, hUnion, hBorrowed⟩ := ticketsFound_union hFoundA hFoundB
  refine ⟨A, B, _, found, rfl, rfl, hPlan, hFound, hEither, fun hColumn => hUnion ?_,
    fun hBoards => ?_⟩
  · -- no column text is no column pattern
    rw [reading, Criteria.filters, hColumn]
    rfl
  · -- workboards of the snapshot are boards of its catalog
    have hOnBoards : ∀ name ∈ A.names ++ B.names, ∀ id ∈ catalog.resolve name.raw,
        (catalog.board? id).isSome = true :=
      fun name hName id hId => Catalog.board?_isSome_iff.mpr (hBoards name hName id hId)
    obtain ⟨hBoardsA, hBoardsB⟩ := List.forall_mem_append.mp hOnBoards
    exact hBorrowed hBoardsA hBoardsB

/-- Two workboards, each with a column, and a ticket on the first. -/
def doingSnapshot : Snapshot where
  projects := [
    { id := "P1", name := "Dev", columns := [⟨"C1", "Doing", 0⟩] },
    { id := "P2", name := "Ops", columns := [⟨"C2", "Inbox", 0⟩] }]
  tickets := [
    { id := 7, title := "Crash", status := "open", priority := "80", createdAt := .earliest,
      updatedAt := .earliest, projects := ["P1"], columns := Dictionary.ofList [("P1", "C1")] }]

/-- What is not in the column `Doing`. -/
def notDoing : Criteria where
  column := some "not:in:Doing"

/-- The plan for what is not in the column `Doing` and has one of the tags. -/
def notDoingPlan (first : String) (others : List String) : Plan where
  filters := {
    column := some ⟨⟨⟨⟨.current "Doing", true⟩, []⟩⟩, []⟩
    tag := some ⟨⟨⟨⟨⟨first⟩, []⟩⟩, others.map fun name => ⟨⟨⟨name⟩, []⟩⟩⟩⟩ }

/-- A ticket of the first project is found on the board of the second, where it never was. -/
theorem ticketsFound_comma_borrowed :
    let catalog := Catalog.ofSnapshot doingSnapshot {}
    let both := notDoingPlan "dev" ["ops"]
    Text.trim "dev" ≠ "*" ∧ Text.trim "ops" ≠ "*" ∧
      (notDoingPlan "dev" []).ticketsFound catalog doingSnapshot.tickets = .ok [] ∧
      (notDoingPlan "ops" []).ticketsFound catalog doingSnapshot.tickets = .ok [] ∧
      both.ticketsFound catalog doingSnapshot.tickets = .ok doingSnapshot.tickets ∧
      ∃ A B, (∀ name ∈ A.names ++ B.names, ∀ board ∈ catalog.resolve name.raw,
          doingSnapshot.IsWorkboard board) ∧
        ∀ t ∈ doingSnapshot.tickets,
          both.filters.Borrows catalog t A B ∨ both.filters.Borrows catalog t B A := by
  intro catalog both
  have hStarDev : Text.trim "dev" ≠ "*" := by decide
  have hStarOps : Text.trim "ops" ≠ "*" := by decide
  have hPlanDev : ofCriteria .earliest none { notDoing with tag := some "dev" } =
    .ok (notDoingPlan "dev" []) := rfl
  have hPlanOps : ofCriteria .earliest none { notDoing with tag := some "ops" } =
    .ok (notDoingPlan "ops" []) := rfl
  have hPlan : ofCriteria .earliest none { notDoing with tag := some "dev,ops" } = .ok both := rfl
  have hDev : (notDoingPlan "dev" []).ticketsFound catalog doingSnapshot.tickets = .ok [] := rfl
  have hOps : (notDoingPlan "ops" []).ticketsFound catalog doingSnapshot.tickets = .ok [] := rfl
  have hBoth : both.ticketsFound catalog doingSnapshot.tickets = .ok doingSnapshot.tickets := rfl
  obtain ⟨A, B, plan, found, -, -, hPlan', hFound, -, -, hBorrowed⟩ :=
    ticketsFound_comma hStarDev hStarOps hPlanDev hPlanOps hDev hOps
  -- the theorem gives some plan and what it finds, and here both are known
  cases hPlan.symm.trans hPlan'
  cases hBoth.symm.trans hFound
  have hBoards : ∀ name ∈ A.names ++ B.names, ∀ board ∈ catalog.resolve name.raw,
      doingSnapshot.IsWorkboard board :=
    fun _ _ _ => Snapshot.isWorkboard_of_mem_resolve (by decide)
  refine ⟨hStarDev, hStarOps, hDev, hOps, hBoth, A, B, hBoards, fun t ht => ?_⟩
  simpa [ht] using hBorrowed hBoards t

/-- Where every project is a workboard, for two tags a ticket is found that is found for
neither. -/
theorem comma_tag_finds_more :
    ¬ ∀ (snapshot : Snapshot) (settings : Settings) (now : Instant) (heading : Option Heading)
        (c : Criteria) (a b : String) (planA planB plan : Plan)
        (foundA foundB found : List Ticket), (∀ p ∈ snapshot.projects, p.columns ≠ []) →
      Text.trim a ≠ "*" → Text.trim b ≠ "*" →
      ofCriteria now heading { c with tag := some a } = .ok planA →
      ofCriteria now heading { c with tag := some b } = .ok planB →
      ofCriteria now heading { c with tag := some (a ++ "," ++ b) } = .ok plan →
      let catalog := Catalog.ofSnapshot snapshot settings
      planA.ticketsFound catalog snapshot.tickets = .ok foundA →
      planB.ticketsFound catalog snapshot.tickets = .ok foundB →
      plan.ticketsFound catalog snapshot.tickets = .ok found →
      ∀ t, t ∈ found ↔ t ∈ foundA ∨ t ∈ foundB := by
  intro h
  -- neither tag finds anything here, and both together find the one ticket
  have hUnion := h doingSnapshot {} .earliest none notDoing "dev" "ops" (notDoingPlan "dev" [])
    (notDoingPlan "ops" []) (notDoingPlan "dev" ["ops"]) [] [] doingSnapshot.tickets (by decide)
    (by decide) (by decide) rfl rfl rfl rfl rfl rfl
  obtain ⟨t, ht⟩ : ∃ t, t ∈ doingSnapshot.tickets := ⟨_, List.mem_cons_self⟩
  simpa using (hUnion t).mp ht

end Plan

end TicketTrail
