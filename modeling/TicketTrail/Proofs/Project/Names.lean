import TicketTrail.Catalog
import TicketTrail.Proofs.Pattern.Reading
import TicketTrail.Proofs.Project.Globs
import TicketTrail.Proofs.Text.Lowercase

/-!
# Matching by id and by name

A ticket can be held against a project pattern in two ways: by the names of its
projects, or by their ids once the names in the pattern have been resolved to
ids. Ids may be shared, and so may names; the two ways agree all the same, at
every ticket and down to the pattern that is matched first.

A name and a project's id meet in one statement: a name stands for an id exactly
when it matches some name of some project with that id
(`Catalog.mem_resolve_iff`). A pattern asks this of each of its names apart
(`exists_choice_iff`), so it does not matter that one way first forms the
combinations of ids and the other never does.

Main results:

* `Glob.isMatch_star` — the glob `*` matches every text;
* `ProjectName.isMatch_lower` — a name matches a text as it matches its
  lowercase;
* `ProjectPatternSet.resolve_preserves_match` — matching by id is matching by name.
-/

namespace TicketTrail

/-! ## Names -/

namespace Glob

theorem isMatch_star (s : List Char) : isMatch [.star] s = true :=
  isMatch_star_iff.mpr ⟨s, [], (List.append_nil s).symm, isMatch_nil_iff.mpr rfl⟩

end Glob

namespace ProjectName

/-- The name `*` matches every project. -/
theorem isMatch_wildcard (project : String) : isMatch ⟨"*"⟩ project = true := by
  rw [isMatch, if_pos (by decide)]
  exact Glob.isMatch_star _

/-- A name matches a text as it matches its lowercase. -/
theorem isMatch_lower (name : ProjectName) (project : String) :
    name.isMatch (Text.lower project) = name.isMatch project := by
  have hChars : Text.lowerChars (Text.lower project).toList = Text.lowerChars project.toList := by
    rw [Text.lower, String.toList_ofList, Text.lowerChars_lowerChars]
  rw [isMatch, isMatch, hChars, Text.lower_lower]

theorem matchesAny_eq_true_iff {name : ProjectName} {projects : List String} :
    name.matchesAny projects = true ↔ ∃ project ∈ projects, name.isMatch project = true :=
  List.any_eq_true

end ProjectName

/-! ## Projects -/

namespace Project

/-- The names a project is found by, as the snapshot has them. -/
def names (p : Project) : List String :=
  p.name :: p.slugs.filter (!·.isEmpty)

/-- It makes no difference that projects are looked up by the lowercase of their names. -/
theorem matchesAny_aliases (p : Project) (name : ProjectName) :
    name.matchesAny p.aliases = name.matchesAny p.names := by
  have hSame : name.isMatch ∘ Text.lower = name.isMatch := funext name.isMatch_lower
  show (p.names.map Text.lower).any name.isMatch = p.names.any name.isMatch
  rw [List.any_map, hSame]

/-- Every project has a name for `*` to match. -/
theorem matchesAny_wildcard (p : Project) : ProjectName.matchesAny ⟨"*"⟩ p.names = true := by
  rw [ProjectName.matchesAny_eq_true_iff]
  exact ⟨p.name, List.mem_cons_self, ProjectName.isMatch_wildcard p.name⟩

end Project

/-- The names of all projects of the snapshot that have one of the ids. -/
def Snapshot.namesOf (snapshot : Snapshot) (ids : List String) : List String :=
  (snapshot.projects.filter fun p => ids.contains p.id).flatMap Project.names

/-- A name of the ids is a name of a project with one of them. -/
theorem Snapshot.mem_namesOf {snapshot : Snapshot} {ids : List String} {name : String} :
    name ∈ snapshot.namesOf ids ↔ ∃ p ∈ snapshot.projects, p.id ∈ ids ∧ name ∈ p.names := by
  simp [namesOf, and_assoc]

/-- A name stands for an id exactly when it matches a name of some project with
that id. -/
theorem Catalog.mem_resolve_iff {snapshot : Snapshot} {settings : Settings} {name : ProjectName}
    {id : String} :
    id ∈ (ofSnapshot snapshot settings).resolve name.raw ↔
      ∃ p ∈ snapshot.projects, p.id = id ∧ name.matchesAny p.names = true := by
  -- the text `*` needs no case of its own: the glob it is matches every project
  have hHit : ∀ p : Project,
      (name.raw == "*" || name.matchesAny p.aliases) = name.matchesAny p.names := by
    intro p
    by_cases hWildcard : name.raw = "*"
    · have hName : name = ⟨"*"⟩ := by rw [← hWildcard]
      rw [hName, p.matchesAny_wildcard]
      rfl
    · rw [beq_false_of_ne hWildcard, Bool.false_or, p.matchesAny_aliases]
  show id ∈ (((snapshot.projects.filter fun p =>
    name.raw == "*" || name.matchesAny p.aliases).map Project.id).eraseDups) ↔ _
  simp only [hHit, List.mem_eraseDups, List.mem_map, List.mem_filter, and_assoc]
  constructor
  · rintro ⟨p, hp, hMatch, hId⟩
    exact ⟨p, hp, hId, hMatch⟩
  · rintro ⟨p, hp, hId, hMatch⟩
    exact ⟨p, hp, hMatch, hId⟩

/-- A name matches among the names of a ticket's projects exactly when it stands
for one of their ids. -/
theorem Catalog.matchesAny_namesOf_iff {snapshot : Snapshot} (settings : Settings)
    {name : ProjectName} {ids : List String} :
    name.matchesAny (snapshot.namesOf ids) = true ↔
      ∃ id ∈ (ofSnapshot snapshot settings).resolve name.raw, id ∈ ids := by
  rw [ProjectName.matchesAny_eq_true_iff]
  constructor
  · rintro ⟨project, hProject, hMatch⟩
    obtain ⟨p, hp, hId, hMem⟩ := Snapshot.mem_namesOf.mp hProject
    have hAny := ProjectName.matchesAny_eq_true_iff.mpr ⟨project, hMem, hMatch⟩
    exact ⟨p.id, mem_resolve_iff.mpr ⟨p, hp, rfl, hAny⟩, hId⟩
  · rintro ⟨id, hId, hMem⟩
    obtain ⟨p, hp, rfl, hAny⟩ := mem_resolve_iff.mp hId
    obtain ⟨project, hProject, hMatch⟩ := ProjectName.matchesAny_eq_true_iff.mp hAny
    exact ⟨project, Snapshot.mem_namesOf.mpr ⟨p, hp, hMem, hProject⟩, hMatch⟩

/-! ## Combinations -/

/-- Some choice stays among the ids exactly when every list has one of them. -/
theorem exists_choice_iff {lists : List (List String)} {ids : List String} :
    (∃ choice ∈ choices lists, ∀ id ∈ choice, id ∈ ids) ↔ ∀ l ∈ lists, ∃ id ∈ l, id ∈ ids := by
  -- one id from the first list, and the rest of the choice from the others
  induction lists with
  | nil => simp [choices]
  | cons l rest ih =>
    rw [List.forall_mem_cons, ← ih, choices]
    constructor
    · rintro ⟨choice, hChoice, hAll⟩
      obtain ⟨id, hId, hChoice⟩ := List.mem_flatMap.mp hChoice
      obtain ⟨others, hOthers, rfl⟩ := List.mem_map.mp hChoice
      obtain ⟨hHead, hTail⟩ := List.forall_mem_cons.mp hAll
      exact ⟨⟨id, hId, hHead⟩, others, hOthers, hTail⟩
    · rintro ⟨⟨id, hId, hHead⟩, others, hOthers, hTail⟩
      exact ⟨id :: others, List.mem_flatMap.mpr ⟨id, hId, List.mem_map.mpr ⟨others, hOthers, rfl⟩⟩,
        List.forall_mem_cons.mpr ⟨hHead, hTail⟩⟩

namespace ProjectPatternSet

theorem findMatch?_nil (set : ProjectPatternSet) : set.findMatch? [] = none := by
  rw [findMatch?, List.findIdx?_eq_none_iff]
  intro p _
  rw [ProjectPattern.isMatch, List.all_eq_false]
  exact ⟨p.names.head, List.mem_cons_self, by simp [ProjectName.matchesAny]⟩

/-- A name that can be resolved has the ids it stands for. -/
theorem resolveName_eq_ok {set : ProjectPatternSet} {resolve : String → List String}
    {name : ProjectName} {ids : List String} (h : set.resolveName resolve name = .ok ids) :
    ids = resolve name.raw := by
  rw [resolveName] at h
  split at h
  · cases h
  · cases h
    rfl

/-- A resolved list of names has the ids of each name, in order. -/
theorem mapM_resolveName_eq_ok {set : ProjectPatternSet} {resolve : String → List String}
    {names : List ProjectName} {lists : List (List String)}
    (h : names.mapM (set.resolveName resolve) = .ok lists) :
    lists = names.map fun name => resolve name.raw := by
  have hEach := list_mapM_eq_ok_iff.mp h
  clear h
  -- name by name, each with the ids that it stands for
  induction hEach with
  | nil => rfl
  | cons hHead _ ih => rw [List.map_cons, ← resolveName_eq_ok hHead, ← ih]

/-- The combinations of a pattern: some of them is among the ids exactly when
each of its names stands for one of the ids. -/
theorem any_resolvedPattern {set : ProjectPatternSet} {resolve : String → List String}
    {p : ProjectPattern} {combinations : List (List String)}
    (h : set.resolvePattern resolve p = .ok combinations) (ids : List String) :
    (combinations.any fun combination => combination.all ids.contains) = true ↔
      ∀ name ∈ p.names.toList, ∃ id ∈ resolve name.raw, id ∈ ids := by
  obtain ⟨lists, hLists, hCombinations⟩ := bind_eq_ok_iff.mp h
  cases hCombinations
  -- each list that was resolved is that of a name of the pattern
  have hEach : (∀ l ∈ lists, ∃ id ∈ l, id ∈ ids) ↔
      ∀ name ∈ p.names.toList, ∃ id ∈ resolve name.raw, id ∈ ids := by
    rw [mapM_resolveName_eq_ok hLists]
    exact List.forall_mem_map
  rw [← hEach, ← exists_choice_iff, List.any_map, List.any_eq_true]
  -- that a combination is sorted and free of repeats does not matter to membership
  simp

/-- **Matching by id is matching by name**, for every ticket and every set whose
names can all be resolved. -/
theorem resolve_preserves_match (snapshot : Snapshot) (settings : Settings)
    (set : ProjectPatternSet) (resolved : ResolvedProjects) (ids : List String)
    (h : set.resolve (Catalog.ofSnapshot snapshot settings).resolve = .ok resolved) :
    resolved.findMatch? ids = set.findMatch? (snapshot.namesOf ids) := by
  obtain ⟨alternatives, hAlternatives, hResolved⟩ := bind_eq_ok_iff.mp h
  cases hResolved
  rw [ResolvedProjects.findMatch?]
  split
  · next hEmpty =>
    rw [List.isEmpty_iff.mp hEmpty]
    -- without ids there are no names either, and no name matches among none
    have hNames : snapshot.namesOf [] = [] := by simp [Snapshot.namesOf]
    rw [hNames, findMatch?_nil]
  · refine (findIdx?_eq_of_forall₂ (list_mapM_eq_ok_iff.mp hAlternatives) ?_).symm
    intro p combinations hPattern
    rw [Bool.eq_iff_iff, any_resolvedPattern hPattern, ProjectPattern.isMatch, List.all_eq_true]
    constructor
    · intro hAll name hName
      exact (Catalog.matchesAny_namesOf_iff settings).mp (hAll name hName)
    · intro hAll name hName
      exact (Catalog.matchesAny_namesOf_iff settings).mpr (hAll name hName)

/-- Three projects of which two share an id and two a slug. -/
def sharingSnapshot : Snapshot where
  projects := [{ id := "P1", name := "Dev", slugs := ["team", ""] },
    { id := "P2", name := "Ops", slugs := ["Team"] }, { id := "P1", name := "Attic" }]

/-- The set `team+op*,*`. -/
def sharingSet : ProjectPatternSet := ⟨⟨⟨⟨"team"⟩, [⟨"op*"⟩]⟩, [⟨⟨"*"⟩, []⟩]⟩⟩

/-- The same set by id. -/
def sharingResolved : ResolvedProjects := ⟨[[["P1", "P2"], ["P2"]], [["P1"], ["P2"]]]⟩

/-- With a shared id, a shared slug and an id of no project. -/
theorem resolve_preserves_match_sharing :
    sharingSet.resolve (Catalog.ofSnapshot sharingSnapshot {}).resolve = .ok sharingResolved ∧
      sharingResolved.findMatch? ["P2", "P9", "P2"] = some 0 ∧
      sharingSet.findMatch? (sharingSnapshot.namesOf ["P2", "P9", "P2"]) = some 0 := by
  have hResolve : sharingSet.resolve (Catalog.ofSnapshot sharingSnapshot {}).resolve =
      .ok sharingResolved := rfl
  refine ⟨hResolve, rfl, ?_⟩
  rw [← resolve_preserves_match _ _ _ _ _ hResolve]
  rfl

end ProjectPatternSet

end TicketTrail
