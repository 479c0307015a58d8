import TicketTrail.Proofs.Project.Resolution

/-!
# Combinations of ids

A resolved pattern lists one combination of ids for every way of choosing one id per name. To say
in which order they come, a choice is written down as a row of positions, one for each name: the
position of the chosen id among the ids of that name. The rows come in lexicographic order, so the
choice for the first name varies slowest. Two choices may give the same set of ids, when names
share ids or an id is listed twice, and then the set is listed twice.

A ticket is held against the combinations, but whether it matches can be told without them: each
name has to stand for one of the ticket's ids. That the two agree needs that no name stands for
nothing, and such names are why resolving fails.

Main results:

* `choices_eq_map_entriesAt` — choices are listed by rows of positions;
* `ProjectPatternSet.resolve_eq_error_iff` — the name that resolving fails at;
* `ProjectPatternSet.resolve_takes_all_choices` — what resolving gives and what matches.
-/

namespace TicketTrail

/-! ## Rows of positions -/

/-- All rows with one position below each of the sizes, the first position varying slowest. -/
def positionRows : List Nat → List (List Nat)
  | [] => [[]]
  | n :: sizes => (List.range n).flatMap fun i => (positionRows sizes).map (i :: ·)

/-- A row is listed when it has one position below each of the sizes. -/
theorem mem_positionRows {sizes row : List Nat} :
    row ∈ positionRows sizes ↔ List.Forall₂ (· < ·) row sizes := by
  induction sizes generalizing row with
  | nil => simp [positionRows]
  | cons n sizes ih =>
    simp only [positionRows, List.mem_flatMap, List.mem_range, List.mem_map, ih]
    constructor
    · rintro ⟨i, hi, rest, hRest, rfl⟩
      exact List.Forall₂.cons hi hRest
    · intro hRow
      obtain ⟨i, rest, hi, hRest, rfl⟩ := List.forall₂_cons_right_iff.mp hRow
      exact ⟨i, hi, rest, hRest, rfl⟩

/-- The rows are listed in lexicographic order. -/
theorem positionRows_pairwise (sizes : List Nat) :
    (positionRows sizes).Pairwise (List.Lex (· < ·)) := by
  induction sizes with
  | nil => exact List.pairwise_singleton _ _
  | cons n sizes ih =>
    rw [positionRows, List.pairwise_flatMap]
    constructor
    · -- rows with the same first position differ later
      intro i _
      rw [List.pairwise_map]
      exact ih.imp fun hLess => List.Lex.cons hLess
    · -- rows with different first positions are told apart by them
      refine List.pairwise_lt_range.imp ?_
      intro i j hij row hRow row' hRow'
      obtain ⟨rest, -, rfl⟩ := List.mem_map.mp hRow
      obtain ⟨rest', -, rfl⟩ := List.mem_map.mp hRow'
      exact List.Lex.rel hij

/-- What stands at the positions, one of them in each list. -/
def entriesAt (lists : List (List String)) (row : List Nat) : List String :=
  List.zipWith (fun ids i => ids.getD i "") lists row

theorem map_getD_range (ids : List String) :
    (List.range ids.length).map (fun i => ids.getD i "") = ids := by
  refine List.ext_getElem (by simp) ?_
  intro i _ hi
  simp [List.getElem?_eq_getElem hi]

/-- **Choices are listed by rows of positions.** -/
theorem choices_eq_map_entriesAt (lists : List (List String)) :
    choices lists = (positionRows (lists.map List.length)).map (entriesAt lists) := by
  -- name by name: an id is chosen by its position, then the rest by a row
  induction lists with
  | nil => rfl
  | cons ids rest ih =>
    calc choices (ids :: rest)
        = ids.flatMap fun id => (choices rest).map (id :: ·) := rfl
      _ = ((List.range ids.length).map fun i => ids.getD i "").flatMap fun id =>
            (choices rest).map (id :: ·) := by rw [map_getD_range]
      _ = (List.range ids.length).flatMap fun i =>
            ((positionRows (rest.map List.length)).map (i :: ·)).map (entriesAt (ids :: rest)) := by
          rw [List.flatMap_map, ih]
          simp only [List.map_map]
          rfl
      _ = (positionRows ((ids :: rest).map List.length)).map (entriesAt (ids :: rest)) := by
          rw [List.map_cons, positionRows, List.map_flatMap]

/-- The combinations are the sets of what is chosen from the lists, one for each row of positions,
and the rows are in lexicographic order. -/
def ListsChoices (lists combinations : List (List String)) : Prop :=
  ∃ rows : List (List Nat), rows.Pairwise (List.Lex (· < ·)) ∧
    (∀ row, row ∈ rows ↔ List.Forall₂ (· < ·) row (lists.map List.length)) ∧
    combinations = rows.map fun row => Text.sortedSet (entriesAt lists row)

/-- The choices are listed in this way. -/
theorem listsChoices (lists : List (List String)) :
    ListsChoices lists ((choices lists).map Text.sortedSet) := by
  refine ⟨positionRows (lists.map List.length), positionRows_pairwise _,
    fun row => mem_positionRows, ?_⟩
  rw [choices_eq_map_entriesAt, List.map_map]
  rfl

/-! ## Resolving -/

/-- Each name of the pattern stands for one of the ids. -/
def ProjectPattern.Meets (p : ProjectPattern) (resolve : String → List String)
    (ids : List String) : Prop :=
  ∀ name ∈ p.names.toList, ∃ id ∈ resolve name.raw, id ∈ ids

instance (p : ProjectPattern) (resolve : String → List String) (ids : List String) :
    Decidable (p.Meets resolve ids) :=
  inferInstanceAs (Decidable (∀ name ∈ p.names.toList, ∃ id ∈ resolve name.raw, id ∈ ids))

namespace ProjectPatternSet

variable (set : ProjectPatternSet) (resolve : String → List String)

/-- Resolving fails at the first name that stands for nothing, and the error names it together
with the text of the set. -/
theorem resolve_eq_error_iff {e : UnresolvedProject} :
    set.resolve resolve = .error e ↔
      FirstFailure (fun name => resolve name.raw ≠ [])
        (fun name e => resolve name.raw = [] ∧ e = ⟨name.raw, set.text⟩) set.names e := by
  -- what is wrong with a name is that it stands for nothing
  have hMissing : ∀ name, set.missing? resolve name = some e ↔
      resolve name.raw = [] ∧ e = ⟨name.raw, set.text⟩ := by
    intro name
    rw [missing?]
    by_cases hNone : resolve name.raw = []
    · rw [hNone, List.isEmpty_nil, if_pos rfl, Option.some.injEq, eq_comm]
      exact (and_iff_right rfl).symm
    · rw [if_neg (mt List.isEmpty_iff.mp hNone)]
      simp [hNone]
  have hFault : set.resolve resolve = .error e ↔ set.unresolved? resolve = some e := by
    rw [resolve_eq]
    cases set.unresolved? resolve <;> simp
  rw [hFault, unresolved?, List.findSome?_eq_some_iff]
  simp only [hMissing, missing?_eq_none_iff, FirstFailure]
  constructor
  · rintro ⟨before, name, after, hNames, hName, hBefore⟩
    exact ⟨before, name, after, hNames, hBefore, hName⟩
  · rintro ⟨before, name, after, hNames, hBefore, hName⟩
    exact ⟨before, name, after, hNames, hName, hBefore⟩

/-- Where every name stands for some project, the result is the set with ids in place of
names. -/
theorem resolve_eq_ok_iff {resolved : ResolvedProjects} :
    set.resolve resolve = .ok resolved ↔
      (∀ name ∈ set.names, resolve name.raw ≠ []) ∧ set.byId resolve = resolved := by
  rw [resolve_eq, unlessFault_eq_ok_iff, unresolved?_eq_none_iff]

/-- Resolving fails exactly when some name stands for nothing. -/
theorem resolve_fails_iff :
    (∃ e, set.resolve resolve = .error e) ↔ ∃ name ∈ set.names, resolve name.raw = [] := by
  constructor
  · rintro ⟨e, hError⟩
    obtain ⟨before, name, after, hNames, -, hNone, -⟩ :=
      (resolve_eq_error_iff set resolve).mp hError
    exact ⟨name, by simp [hNames], hNone⟩
  · rintro ⟨name, hName, hNone⟩
    -- a result would mean that every name stands for something
    cases hResolve : set.resolve resolve with
    | error e => exact ⟨e, rfl⟩
    | ok resolved => exact absurd hNone (((resolve_eq_ok_iff set resolve).mp hResolve).1 name hName)

/-- The pattern that is matched first is the first of whose names each stands for one of the
ids. -/
theorem findMatch?_byId_eq_some_iff {ids : List String} {k : Nat} :
    (set.byId resolve).findMatch? ids = some k ↔
      ∃ h : k < set.patterns.toList.length, (set.patterns.toList[k]).Meets resolve ids ∧
        ∀ j (hj : j < k), ¬ (set.patterns.toList[j]).Meets resolve ids := by
  rw [findMatch?_byId, List.findIdx?_eq_some_iff_getElem]
  simp only [any_combinations_iff, ProjectPattern.Meets]

/-- There is no match when every pattern has a name that stands for none of the ids. -/
theorem findMatch?_byId_eq_none_iff {ids : List String} :
    (set.byId resolve).findMatch? ids = none ↔
      ∀ p ∈ set.patterns.toList, ¬ p.Meets resolve ids := by
  rw [findMatch?_byId, List.findIdx?_eq_none_iff]
  simp only [Bool.eq_false_iff, Ne, any_combinations_iff, ProjectPattern.Meets]

/-- **Resolving takes every choice, and matching by id tells whether each name is met.** Resolving
fails exactly when some name stands for nothing, and the error names the first such name with the
text of the set. Otherwise each pattern has the combinations of all choices of one id per name, in
lexicographic order and as many as the product of the numbers of ids; the ids of them all are
those the names stand for; and a ticket's ids match the first pattern of which each name stands
for one of them, and none when there is no such pattern or no id. -/
theorem resolve_takes_all_choices :
    (∀ e, set.resolve resolve = .error e ↔
        FirstFailure (fun name => resolve name.raw ≠ [])
          (fun name e => resolve name.raw = [] ∧ e = ⟨name.raw, set.text⟩) set.names e) ∧
      ((∃ e, set.resolve resolve = .error e) ↔ ∃ name ∈ set.names, resolve name.raw = []) ∧
      ∀ resolved, set.resolve resolve = .ok resolved →
        List.Forall₂ (fun (p : ProjectPattern) combinations =>
            ListsChoices (p.names.toList.map fun name => resolve name.raw) combinations ∧
              combinations.length =
                (p.names.toList.map fun name => (resolve name.raw).length).foldr (· * ·) 1)
          set.patterns.toList resolved.alternatives ∧
        resolved.allIds.Pairwise (· < ·) ∧
        (∀ id, id ∈ resolved.allIds ↔ ∃ name ∈ set.names, id ∈ resolve name.raw) ∧
        (∀ ids k, resolved.findMatch? ids = some k ↔
          ∃ h : k < set.patterns.toList.length, (set.patterns.toList[k]).Meets resolve ids ∧
            ∀ j (hj : j < k), ¬ (set.patterns.toList[j]).Meets resolve ids) ∧
        (∀ ids, resolved.findMatch? ids = none ↔
          ∀ p ∈ set.patterns.toList, ¬ p.Meets resolve ids) ∧
        resolved.findMatch? [] = none := by
  refine ⟨fun e => resolve_eq_error_iff set resolve, resolve_fails_iff set resolve, ?_⟩
  intro resolved hResolve
  obtain ⟨hSome, rfl⟩ := (resolve_eq_ok_iff set resolve).mp hResolve
  refine ⟨?_, Text.sortedSet_pairwise _, ?_, fun ids k => findMatch?_byId_eq_some_iff set resolve,
    fun ids => findMatch?_byId_eq_none_iff set resolve, rfl⟩
  · rw [byId, List.forall₂_map_right_iff, List.forall₂_same]
    intro p _
    refine ⟨listsChoices _, ?_⟩
    -- sorting a choice into a set does not change how many there are
    rw [combinations, List.length_map, length_choices, List.map_map]
    rfl
  · intro id
    rw [allIds_byId set resolve hSome, Text.mem_sortedSet, List.mem_flatMap]

/-- The set `team*+backend,infra`. -/
def teamSet : ProjectPatternSet := ⟨⟨⟨⟨⟨"team*"⟩, [⟨"backend"⟩]⟩⟩, [⟨⟨⟨"infra"⟩, []⟩⟩]⟩⟩

/-- Ids for the names of the set; the first two names share one. -/
def teamIds : String → List String
  | "team*" => ["T1", "T2"]
  | "backend" => ["B", "T1"]
  | "infra" => ["I"]
  | _ => []

/-- The set by id. -/
def teamResolved : ResolvedProjects :=
  ⟨[[["B", "T1"], ["T1"], ["B", "T2"], ["T1", "T2"]], [["I"]]]⟩

/-- Two patterns, with an id that two names of the first one share. -/
theorem resolve_takes_all_choices_team :
    teamSet.resolve teamIds = .ok teamResolved ∧
      ListsChoices [["T1", "T2"], ["B", "T1"]]
        [["B", "T1"], ["T1"], ["B", "T2"], ["T1", "T2"]] ∧
      "T2" ∈ teamResolved.allIds ∧ teamResolved.findMatch? ["I", "T1"] = some 0 ∧
      teamResolved.findMatch? ["I", "T2"] = some 1 ∧ teamResolved.findMatch? ["B"] = none := by
  have hResolve : teamSet.resolve teamIds = .ok teamResolved := rfl
  obtain ⟨-, -, hResolved⟩ := resolve_takes_all_choices teamSet teamIds
  obtain ⟨hChoices, -, hIds, hFirst, hNone, -⟩ := hResolved teamResolved hResolve
  obtain ⟨hTeam, -⟩ := List.forall₂_cons.mp hChoices
  refine ⟨hResolve, hTeam.1, (hIds "T2").mpr ⟨⟨"team*"⟩, by decide, by decide⟩, ?_, ?_, ?_⟩
  · exact (hFirst ["I", "T1"] 0).mpr ⟨by decide, by decide, by decide⟩
  · exact (hFirst ["I", "T2"] 1).mpr ⟨by decide, by decide, by decide⟩
  · exact (hNone ["B"]).mpr (by decide)

end ProjectPatternSet

end TicketTrail
