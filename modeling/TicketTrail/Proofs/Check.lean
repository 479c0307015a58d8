import TicketTrail.Catalog
import TicketTrail.Check
import TicketTrail.Proofs.Pattern.RoundTrip
import TicketTrail.Proofs.Project.Reading
import TicketTrail.Proofs.Search.Boards
import TicketTrail.Proofs.Search.Criteria

/-!
# Checking and searching

A pattern can be checked before it is searched with. The check reads a text as it
stands, while the flags of a search take a tag apart first: blanks around it are
dropped, and the tag `*` is not read at all. Neither makes a difference to what is
accepted, since blanks around a text do not matter to its groups and `*` is the name
of a project like any other.

What a check prints is a normal form: it is read as the same patterns again, and so
is each of its lines by itself.

Main results:

* `Criteria.head?_textFaults_withText` — a flag is at fault as its check is;
* `NormalForm.parse_fixed` — normal forms are fixed, as a whole and line by line;
* `NormalForm.check_agrees_with_search` — both, for every axis and every scale.
-/

namespace TicketTrail

/-! ## One flag -/

/-- The axes of the flags, in the order in which the flags are read. -/
def Axis.ofFlags : List Axis :=
  [.project, .ordered .column, .ordered .priority, .ordered .status]

theorem Axis.mem_ofFlags (axis : Axis) : axis ∈ ofFlags := by
  match axis with
  | .project | .ordered .column | .ordered .priority | .ordered .status => decide

/-- The fault of a text as a fault of the flag for its axis. -/
def CriteriaError.ofText (axis : Axis) (text : String) (cause : PatternError) : CriteriaError :=
  match axis with
  | .ordered axis => .pattern axis text cause
  | .project => .tag (Text.trim text) cause

namespace Criteria

/-- The text given for an axis. -/
def text? (c : Criteria) : Axis → Option String
  | .ordered .column => c.column
  | .ordered .priority => c.priority
  | .ordered .status => c.status
  | .project => c.tag

/-- The criteria with the given text for an axis in place of their own. -/
def withText (c : Criteria) (axis : Axis) (text : Option String) : Criteria :=
  match axis with
  | .ordered .column => { c with column := text }
  | .ordered .priority => { c with priority := text }
  | .ordered .status => { c with status := text }
  | .project => { c with tag := text }

/-- The text of one axis is replaced, and the others stay. -/
theorem text?_withText (c : Criteria) (axis other : Axis) (text : Option String) :
    (c.withText axis text).text? other = if other = axis then text else c.text? other := by
  -- four axes on either side, and in each case the field is read that was or was not set
  rcases axis with (_ | _ | _) | _ <;> rcases other with (_ | _ | _) | _ <;> rfl

/-- What is wrong with the flag for an axis: what its check would say. -/
def flagFault? (c : Criteria) (axis : Axis) : Option CriteriaError :=
  (c.text? axis).bind fun text => (fault? (NormalForm.parse axis text)).map (.ofText axis text)

/-- On an ordered axis the check reads what the search reads. -/
theorem flagFault?_ordered (c : Criteria) (axis : OrderedAxis) :
    c.flagFault? (.ordered axis) = patternFault? axis (c.text? (.ordered axis)) := by
  simp only [flagFault?, NormalForm.parse, fault?_map]
  rfl

/-- For a tag the two find the same faults, although the search takes the text apart
first. -/
theorem flagFault?_project (c : Criteria) : c.flagFault? .project = c.tagFault? := by
  simp only [flagFault?, NormalForm.parse, fault?_map]
  refine Option.bind_congr fun text _ => ?_
  rw [ProjectPatternSet.parse_trim]
  split
  · next hAll =>
    -- the tag that is not read could be read
    rw [← ProjectPatternSet.parse_trim, hAll]
    rfl
  · rfl

/-- The faults of the texts are what the checks of the flags say. -/
theorem textFaults_eq_filterMap (c : Criteria) :
    c.textFaults = Axis.ofFlags.filterMap c.flagFault? := by
  have hFlags : Axis.ofFlags.map c.flagFault? =
      [c.tagFault?, patternFault? .column c.column, patternFault? .priority c.priority,
        patternFault? .status c.status] := by
    rw [Axis.ofFlags, List.map_cons, List.map_cons, List.map_cons, List.map_cons, List.map_nil,
      flagFault?_project, flagFault?_ordered, flagFault?_ordered, flagFault?_ordered]
    rfl
  rw [textFaults, ← hFlags]
  exact List.filterMap_map

/-- What is told is the fault of the first flag that has one. -/
theorem head?_textFaults (c : Criteria) :
    c.textFaults.head? = Axis.ofFlags.findSome? c.flagFault? := by
  rw [textFaults_eq_filterMap, List.head?_filterMap]

/-- The fault of a flag depends on its own text only. -/
theorem flagFault?_withText_of_ne {c : Criteria} {axis other : Axis} (h : other ≠ axis)
    (text : Option String) : (c.withText axis text).flagFault? other = c.flagFault? other := by
  rw [flagFault?, flagFault?, text?_withText, if_neg h]

/-- **A flag is at fault as its check is**, when nothing is wrong with the others. -/
theorem head?_textFaults_withText {c : Criteria} {axis : Axis}
    (h : (c.withText axis none).textFaults.head? = none) (text : String) :
    (c.withText axis (some text)).textFaults.head? =
      (fault? (NormalForm.parse axis text)).map (.ofText axis text) := by
  rw [head?_textFaults, List.findSome?_eq_none_iff] at h
  have hOthers : ∀ other ∈ Axis.ofFlags, other ≠ axis →
      (c.withText axis (some text)).flagFault? other = none := by
    intro other hOther hNe
    -- the other flags are as they were without the text
    rw [flagFault?_withText_of_ne hNe, ← flagFault?_withText_of_ne hNe none]
    exact h other hOther
  rw [head?_textFaults, findSome?_of_only axis.mem_ofFlags hOthers, flagFault?, text?_withText,
    if_pos rfl, Option.bind_some]

end Criteria

/-! ## Normal forms are fixed -/

/-- A pattern of a well-formed set is well-formed by itself. -/
theorem PatternSet.wellFormed_ofPattern {axis : OrderedAxis} {set : PatternSet} {p : Pattern}
    (h : set.WellFormed axis) (hp : p ∈ set.patterns.toList) : (ofPattern p).WellFormed axis := by
  intro c hc
  obtain ⟨q, hq, hc⟩ := List.mem_flatMap.mp hc
  rw [ofPattern, NonEmpty.toList_mk, List.mem_singleton] at hq
  rw [hq] at hc
  exact h c (List.mem_flatMap.mpr ⟨p, hp, hc⟩)

namespace NormalForm

/-- The normal form is read as itself, and so is each of its lines; its text joins them. -/
structure IsFixed (axis : Axis) (form : NormalForm) : Prop where
  joined : form.text = ",".intercalate form.groups
  again : NormalForm.parse axis form.text = .ok form
  lines : ∀ line ∈ form.groups, NormalForm.parse axis line = .ok ⟨line, [line]⟩

theorem ofSet_ofPattern (p : Pattern) : ofSet (.ofPattern p) = ⟨p.text, [p.text]⟩ := by
  simp [ofSet, PatternSet.text, PatternSet.ofPattern]

theorem ofProjects_ofPattern (p : ProjectPattern) :
    ofProjects (.ofPattern p) = ⟨p.text, [p.text]⟩ := by
  simp [ofProjects, ProjectPatternSet.text, ProjectPatternSet.ofPattern]

theorem parse_ofSet {axis : OrderedAxis} {set : PatternSet} (h : set.WellFormed axis) :
    parse (.ordered axis) (ofSet set).text = .ok (ofSet set) := by
  rw [parse, ofSet, PatternSet.parse_text h]
  rfl

/-- What a check prints of column, priority or status patterns is fixed. -/
theorem isFixed_ofSet {axis : OrderedAxis} {set : PatternSet} (h : set.WellFormed axis) :
    (ofSet set).IsFixed (.ordered axis) where
  joined := rfl
  again := parse_ofSet h
  lines := by
    intro line hLine
    obtain ⟨p, hp, rfl⟩ := List.mem_map.mp hLine
    -- a line is the text of a set of one pattern
    have hLine := parse_ofSet (PatternSet.wellFormed_ofPattern h hp)
    rwa [ofSet_ofPattern] at hLine

/-- Project patterns whose names can be read are read back from their text. -/
theorem parse_ofProjects {set : ProjectPatternSet}
    (h : ∀ parts ∈ set.parts.toList, ∀ part ∈ parts.toList, IsPart part) :
    parse .project (ofProjects set).text = .ok (ofProjects set) := by
  rw [parse, ofProjects, ProjectPatternSet.parse_text h]
  rfl

/-- What a check prints of a tag is fixed. -/
theorem isFixed_ofProjects {set : ProjectPatternSet}
    (h : ∀ parts ∈ set.parts.toList, ∀ part ∈ parts.toList, IsPart part) :
    (ofProjects set).IsFixed .project where
  joined := rfl
  again := parse_ofProjects h
  lines := by
    intro line hLine
    obtain ⟨p, hp, rfl⟩ := List.mem_map.mp hLine
    have hLine := parse_ofProjects (ProjectPatternSet.isPart_ofPattern h hp)
    rwa [ofProjects_ofPattern] at hLine

/-- **Normal forms are fixed.** What a check prints is read as itself. -/
theorem parse_fixed {axis : Axis} {text : String} {form : NormalForm}
    (h : parse axis text = .ok form) : form.IsFixed axis := by
  -- what was read is well-formed, on either kind of axis
  cases axis with
  | ordered axis =>
    obtain ⟨set, hSet, rfl⟩ := map_eq_ok_iff.mp h
    exact isFixed_ofSet (PatternSet.wellFormed_of_parse hSet)
  | project =>
    obtain ⟨set, hSet, rfl⟩ := map_eq_ok_iff.mp h
    exact isFixed_ofProjects (ProjectPatternSet.isPart_of_parse hSet)

/-! ## Checks and searches -/

/-- **Checks and searches read the same patterns.** With criteria that can be read
otherwise, a text is accepted as the flag for an axis exactly when its check accepts
it, and is refused for the same cause. What the ranks of a scale are does not matter,
so a text is the same patterns on every board and for every tracker. And what a check
prints is read as itself, as a whole and line by line. -/
theorem check_agrees_with_search (axis : Axis) (text : String) :
    (∀ now (c : Criteria) others, Filters.parse now (c.withText axis none) = .ok others →
      ((∃ f, Filters.parse now (c.withText axis (some text)) = .ok f) ↔
        ∃ form, parse axis text = .ok form) ∧
      ∀ e, Filters.parse now (c.withText axis (some text)) = .error e ↔
        ∃ cause, parse axis text = .error cause ∧ e = .ofText axis text cause) ∧
    (∀ scale scale' : Scale, axis = .ordered scale.axis → scale.axis = scale'.axis →
      PatternSet.parse scale.axis text = PatternSet.parse scale'.axis text ∧
        parse axis text = (PatternSet.parse scale.axis text).map ofSet) ∧
    (∀ snapshot settings board, let catalog := Catalog.ofSnapshot snapshot settings
      (catalog.boardScale board).axis = (Scale.plain .column).axis ∧
        catalog.priority.axis = (Scale.plain .priority).axis ∧
        catalog.status.axis = (Scale.plain .status).axis) ∧
    ∀ form, parse axis text = .ok form → form.IsFixed axis := by
  refine ⟨?_, ?_, ?_, fun form => parse_fixed⟩
  · intro now c others hOthers
    -- nothing is wrong with the other flags, so the first fault is that of this one
    rw [Filters.parse_eq, unlessFault_eq_ok_iff] at hOthers
    rw [Filters.parse_eq, Criteria.head?_textFaults_withText hOthers.1]
    cases parse axis text with
    | ok form => simp [fault?]
    | error cause => simp [fault?, eq_comm]
  · rintro scale scale' rfl hAxis
    exact ⟨by rw [hAxis], rfl⟩
  · intro snapshot settings board catalog
    exact ⟨Catalog.axis_boardScale snapshot settings board, rfl, rfl⟩

/-- The two for a tag of two alternatives, and for a status pattern that cannot be read. -/
theorem check_agrees_with_search_union :
    let form : NormalForm := ⟨"dev,*+ops", ["dev", "*+ops"]⟩
    let c : Criteria := { query := some "crash" }
    parse .project " dev ,, * +ops" = .ok form ∧
      (∃ f, Filters.parse .earliest (c.withText .project (some " dev ,, * +ops")) = .ok f) ∧
      form.IsFixed .project ∧
      Filters.parse .earliest (c.withText (.ordered .status) (some "sideways")) =
        .error (.pattern .status "sideways" (.invalidSyntax .status "sideways")) ∧
      PatternSet.parse (Scale.plain .status).axis "sideways" =
        PatternSet.parse (Scale.mk .status .builtinPriority).axis "sideways" := by
  intro form c
  have hForm : parse .project " dev ,, * +ops" = .ok form := rfl
  -- one axis whose text is accepted, and one whose text is refused
  obtain ⟨hTag, -, -, hFixed⟩ := check_agrees_with_search .project " dev ,, * +ops"
  obtain ⟨hStatus, hScale, -⟩ := check_agrees_with_search (.ordered .status) "sideways"
  refine ⟨hForm, (hTag .earliest c _ rfl).1.mpr ⟨form, hForm⟩, hFixed form hForm,
    ((hStatus .earliest c _ rfl).2 _).mpr ⟨_, rfl, rfl⟩, ?_⟩
  exact (hScale (Scale.plain .status) ⟨.status, .builtinPriority⟩ rfl rfl).1

end NormalForm

end TicketTrail
