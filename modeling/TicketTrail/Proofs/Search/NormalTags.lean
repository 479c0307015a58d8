import TicketTrail.Proofs.Check
import TicketTrail.Proofs.Search.Tags

/-!
# Normal forms of tags

The check of a tag prints a normal form, in which blanks and stray separators are gone,
and it is read as the same patterns. But a search does not read every tag: the text `*`
means no tag at all, and that is decided on the text itself, where blanks around it are
dropped and nothing else. So a tag can be replaced by its normal form, but for `*`
among stray separators. Such a text is a tag that asks for some project of the tracker,
while its normal form asks for nothing.

Main results:

* `ProjectPatternSet.trim_text_eq_star_iff` — which normal forms are not read;
* `Catalog.hasTag_everything` — what the tag `*` asks for where it is read;
* `Plan.ofCriteria_of_parse` — the plan for a tag that is read, or could be;
* `SearchRequest.normal_tag_selects_alike` — searching with a tag and with its normal
  form;
* `SearchRequest.stray_comma_selects` — a tag and a normal form that differ.
-/

namespace TicketTrail

/-! ## The tag that any project satisfies -/

namespace ProjectPatternSet

/-- The set that is read from `*`. -/
def everything : ProjectPatternSet :=
  ⟨⟨⟨⟨⟨"*"⟩, []⟩⟩, []⟩⟩

theorem parse_star : parse "*" = .ok everything := rfl

variable {text : String} {set : ProjectPatternSet}

/-- A tag that is `*` among blanks could only be read as this set. -/
theorem eq_everything_of_trim (h : parse text = .ok set) (hStar : Text.trim text = "*") :
    set = everything := by
  rw [← parse_trim, hStar, parse_star] at h
  exact (Except.ok.inj h).symm

/-- The only normal form that trims to `*` is `*` itself. -/
theorem trim_text_eq_star_iff (h : parse text = .ok set) :
    Text.trim set.text = "*" ↔ set.text = "*" := by
  have hAgain : parse set.text = .ok set := parse_text (isPart_of_parse h)
  constructor
  · intro hStar
    rw [eq_everything_of_trim hAgain hStar]
    rfl
  · intro hStar
    rw [hStar]
    decide

end ProjectPatternSet

/-- A ticket has the tag `*` when it is in some project of the snapshot. -/
theorem Catalog.hasTag_everything {snapshot : Snapshot} {settings : Settings} {t : Ticket} :
    (ofSnapshot snapshot settings).HasTag t .everything ↔
      ∃ p ∈ snapshot.projects, p.id ∈ t.projects := by
  -- a project is matched by any of its names, and the wildcard matches them all
  have hAll : ∀ id, id ∈ (ofSnapshot snapshot settings).resolve "*" ↔
      ∃ p ∈ snapshot.projects, p.id = id := by
    intro id
    have hResolve : id ∈ (ofSnapshot snapshot settings).resolve "*" ↔
        ∃ p ∈ snapshot.projects, p.id = id ∧ ProjectName.matchesAny ⟨"*"⟩ p.names = true :=
      mem_resolve_iff
    simpa only [Project.matchesAny_wildcard, and_true] using hResolve
  simp only [HasTag, ProjectPatternSet.everything, NonEmpty.toList_mk, List.mem_singleton,
    exists_eq_left, forall_eq, hAll]
  constructor
  · rintro ⟨_, ⟨p, hp, rfl⟩, hId⟩
    exact ⟨p, hp, hId⟩
  · rintro ⟨p, hp, hId⟩
    exact ⟨p.id, ⟨p, hp, rfl⟩, hId⟩

/-! ## Plans -/

namespace Plan

/-- The plan for a tag that could be read. Only the tag `*` is not. -/
theorem ofCriteria_of_parse {text : String} {tag : ProjectPatternSet}
    (h : ProjectPatternSet.parse text = .ok tag) (now : Instant) (heading : Option Heading)
    (c : Criteria) :
    ofCriteria now heading { c with tag := some text } =
      unlessFault { c with tag := none }.textFaults.head?
        (if Text.trim text = "*" then reading now heading { c with tag := none }
          else (reading now heading { c with tag := none }).withTag tag) := by
  have hAny : Criteria.any { c with tag := some text } = true := by simp [Criteria.any]
  have hFault : Criteria.tagFault? { c with tag := some text } = none := by
    rw [Criteria.tagFault?, Option.bind_some, ProjectPatternSet.parse_trim, h]
    split <;> rfl
  have hReading : reading now heading { c with tag := some text } =
      if Text.trim text = "*" then reading now heading { c with tag := none }
        else (reading now heading { c with tag := none }).withTag tag := by
    split
    · next hStar =>
      rw [reading, Criteria.filters, Criteria.tagSet?, Option.bind_some, if_pos hStar]
      rfl
    · next hStar => exact reading_withTag h hStar now heading c
  rw [ofCriteria_eq, Criteria.faults, if_pos hAny, List.nil_append, Criteria.textFaults_eq_append,
    hFault, Option.toList_none, List.nil_append, hReading]

end Plan

/-! ## Searches -/

/-- What a search by the criteria finds, each ticket with its grounds. -/
def Criteria.findings (c : Criteria) (now : Instant) (snapshot : Snapshot) (settings : Settings) :
    Except SearchError (List (Ticket × Grounds)) := do
  let plan ← (Plan.ofCriteria now none c).mapError fun cause => .plan (.request cause)
  let s ← (plan.search (Catalog.ofSnapshot snapshot settings)).mapError .unresolved
  return Plan.found s snapshot.tickets

/-- Tags that are planned alike make the same plans of a request, also over a file of
saved searches. -/
theorem SearchRequest.plans_eq_of_tag {text text' : String} {now : Instant}
    (h : ∀ heading (c : Criteria), Plan.ofCriteria now heading { c with tag := some text } =
      Plan.ofCriteria now heading { c with tag := some text' })
    (console : Console) (files : Files) (own : Criteria) (template : Option String) :
    plans console files now ⟨{ own with tag := some text }, template⟩ =
      plans console files now ⟨{ own with tag := some text' }, template⟩ := by
  cases template with
  | none =>
    simp only [plans]
    rw [h none own]
  | some path =>
    -- the tag of the request comes before a saved one, so each search has it
    have hSaved : Plan.ofSaved now { own with tag := some text } =
        Plan.ofSaved now { own with tag := some text' } := by
      funext saved
      exact congrArg (Except.mapError _) (h _ (own.withDefaults saved.criteria))
    simp only [plans]
    rw [hSaved]

/-- **A tag and its normal form select alike.** Unless the normal form is `*` and the tag
is more than `*` among blanks, a search with the one fails or succeeds as with the other
and finds the same tickets on the same grounds; and so does a whole run, to the letter.
Where the normal form is such a `*`, the tag asks besides for a project of the
snapshot. -/
theorem SearchRequest.normal_tag_selects_alike {text : String} {form : NormalForm}
    (h : NormalForm.parse .project text = .ok form) :
    ((form.text = "*" → Text.trim text = "*") →
      (∀ (c : Criteria) now snapshot settings,
        { c with tag := some form.text }.findings now snapshot settings =
          { c with tag := some text }.findings now snapshot settings) ∧
      ∀ (own : Criteria) template console files now settings path,
        run console files now settings path ⟨{ own with tag := some form.text }, template⟩ =
          run console files now settings path ⟨{ own with tag := some text }, template⟩) ∧
    (form.text = "*" → Text.trim text ≠ "*" → ∀ (c : Criteria) now heading,
      Plan.ofCriteria now heading { c with tag := some text } =
        (Plan.ofCriteria now heading { c with tag := some form.text }).map
          (·.withTag .everything)) := by
  obtain ⟨tag, hTag, rfl⟩ := map_eq_ok_iff.mp h
  have hNormal : ProjectPatternSet.parse tag.text = .ok tag :=
    ProjectPatternSet.parse_text (ProjectPatternSet.isPart_of_parse hTag)
  have hStar : Text.trim tag.text = "*" ↔ tag.text = "*" :=
    ProjectPatternSet.trim_text_eq_star_iff hTag
  simp only [NormalForm.ofProjects]
  constructor
  · intro hOnly
    -- one of the two is not read exactly when the other is not
    have hIff : Text.trim tag.text = "*" ↔ Text.trim text = "*" := by
      refine ⟨fun hTrim => hOnly (hStar.mp hTrim), fun hTrim => ?_⟩
      rw [ProjectPatternSet.eq_everything_of_trim hTag hTrim]
      decide
    have hPlan : ∀ now heading (c : Criteria),
        Plan.ofCriteria now heading { c with tag := some tag.text } =
          Plan.ofCriteria now heading { c with tag := some text } := by
      intro now heading c
      rw [Plan.ofCriteria_of_parse hNormal, Plan.ofCriteria_of_parse hTag]
      simp only [hIff]
    constructor
    · intro c now snapshot settings
      rw [Criteria.findings, Criteria.findings, hPlan]
    · intro own template console files now settings path
      simp only [run]
      rw [plans_eq_of_tag (hPlan now)]
  · intro hText hTrim c now heading
    -- read by itself the normal form `*` is the set of `*`, but a plan does not read it
    have hEverything : tag = .everything :=
      ProjectPatternSet.eq_everything_of_trim hNormal (hStar.mpr hText)
    rw [Plan.ofCriteria_of_parse hTag, if_neg hTrim, Plan.ofCriteria_of_parse hNormal,
      if_pos (hStar.mpr hText), map_unlessFault, hEverything]

namespace SearchRequest

/-- A ticket of one project. -/
def devTicket : Ticket where
  id := 7
  title := "Crash"
  status := "open"
  priority := "80"
  createdAt := .earliest
  updatedAt := .earliest
  projects := ["P1"]

/-- A project, a ticket in it, and a ticket in no project. -/
def looseSnapshot : Snapshot where
  projects := [{ id := "P1", name := "Dev" }]
  tickets := [devTicket, { devTicket with id := 8, projects := [] }]

/-- A union with a joined pattern and stray separators, and a `*` before a stray comma. -/
theorem normal_tag_selects_alike_union :
    let found := [(devTicket, Grounds.mk [] none none)]
    NormalForm.parse .project " dev ,, * +dev" = .ok ⟨"dev,*+dev", ["dev", "*+dev"]⟩ ∧
      { tag := some "dev,*+dev" : Criteria }.findings .earliest looseSnapshot {} = .ok found ∧
      { tag := some " dev ,, * +dev" : Criteria }.findings .earliest looseSnapshot {} =
        .ok found ∧
      NormalForm.parse .project "*," = .ok ⟨"*", ["*"]⟩ ∧
      Text.trim "*," ≠ "*" ∧
      Plan.ofCriteria .earliest none { tag := some "*," } =
        (Plan.ofCriteria .earliest none { tag := some "*" }).map (·.withTag .everything) := by
  intro found
  have hForm : NormalForm.parse .project " dev ,, * +dev" =
    .ok ⟨"dev,*+dev", ["dev", "*+dev"]⟩ := rfl
  have hStar : NormalForm.parse .project "*," = .ok ⟨"*", ["*"]⟩ := rfl
  have hTrim : Text.trim "*," ≠ "*" := by decide
  have hFound : { tag := some "dev,*+dev" : Criteria }.findings .earliest looseSnapshot {} =
    .ok found := rfl
  obtain ⟨hAlike, -⟩ := (normal_tag_selects_alike hForm).1 fun h => absurd h (by decide)
  exact ⟨hForm, hFound, (hAlike {} .earliest looseSnapshot {}).symm.trans hFound, hStar, hTrim,
    (normal_tag_selects_alike hStar).2 rfl hTrim {} .earliest none⟩

/-- A tag that asks for some project, and its normal form that asks for nothing. -/
theorem stray_comma_selects :
    ¬ ∀ (text : String) (form : NormalForm), NormalForm.parse .project text = .ok form →
      ∀ (c : Criteria) now snapshot settings,
        { c with tag := some form.text }.findings now snapshot settings =
          { c with tag := some text }.findings now snapshot settings := by
  intro h
  have hAlike := h "*," ⟨"*", ["*"]⟩ rfl {} .earliest looseSnapshot {}
  have hLength := congrArg (Except.map List.length) hAlike
  -- both tickets for the normal form, and the one in a project for the tag
  change Except.ok 2 = Except.ok 1 at hLength
  cases hLength

end SearchRequest

end TicketTrail
