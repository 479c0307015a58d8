import Mathlib.Data.List.Sort
import TicketTrail.Proofs.Project.Names

/-!
# Resolving a tag

A tag is resolved name by name. The first of its names that stands for no project is
the error, whatever pattern of the tag it stands in; when every name stands for some
project, the result is what one gets by putting the ids of each name in its place.

Main results:

* `ProjectPatternSet.resolve_eq` — what resolving comes to;
* `ProjectPatternSet.allIds_byId` — the ids of a resolved tag are those its names
  stand for;
* `ProjectPatternSet.isMatch_byId_iff` — when a ticket has the tag.
-/

namespace TicketTrail

/-- Sorted sets of the same strings are the same list. -/
theorem Text.sortedSet_eq_of_mem_iff {l m : List String} (h : ∀ x, x ∈ l ↔ x ∈ m) :
    sortedSet l = sortedSet m := by
  refine (sortedSet_pairwise l).eq_of_mem_iff (sortedSet_pairwise m) fun x => ?_
  rw [mem_sortedSet, mem_sortedSet, h]

/-- When there is always something to choose, every entry is in some choice. -/
theorem exists_mem_choice_iff {lists : List (List String)} (h : ∀ l ∈ lists, l ≠ [])
    {x : String} : (∃ choice ∈ choices lists, x ∈ choice) ↔ ∃ l ∈ lists, x ∈ l := by
  -- an entry of the first list is completed by any choice from the others, one of the
  -- others by any id of the first
  induction lists with
  | nil => simp [choices]
  | cons ids rest ih =>
    obtain ⟨hHead, hRest⟩ := List.forall_mem_cons.mp h
    -- some id and some choice from the rest, to complete a choice by
    obtain ⟨id, hId⟩ := List.exists_mem_of_ne_nil ids hHead
    have hChoice : ∃ choice ∈ choices rest, ∀ y ∈ choice, y ∈ rest.flatten := by
      refine exists_choice_iff.mpr fun l hl => ?_
      obtain ⟨y, hy⟩ := List.exists_mem_of_ne_nil l (hRest l hl)
      exact ⟨y, hy, List.mem_flatten.mpr ⟨l, hl, hy⟩⟩
    obtain ⟨others, hOthers, -⟩ := hChoice
    rw [List.exists_mem_cons_iff, ← ih hRest]
    simp only [choices, List.mem_flatMap, List.mem_map]
    constructor
    · rintro ⟨_, ⟨y, hy, tail, hTail, rfl⟩, hx⟩
      rcases List.mem_cons.mp hx with rfl | hx
      · exact Or.inl hy
      · exact Or.inr ⟨tail, hTail, hx⟩
    · rintro (hx | ⟨tail, hTail, hx⟩)
      · exact ⟨x :: others, ⟨x, hx, others, hOthers, rfl⟩, List.mem_cons_self⟩
      · exact ⟨id :: tail, ⟨id, hId, tail, hTail, rfl⟩, List.mem_cons_of_mem _ hx⟩

namespace ProjectPatternSet

variable (set : ProjectPatternSet) (resolve : String → List String)

/-- The names in the set, in the order in which they are written. -/
def names : List ProjectName :=
  set.patterns.toList.flatMap fun p => p.names.toList

/-- What is wrong with a name, if it stands for no project. -/
def missing? (name : ProjectName) : Option UnresolvedProject :=
  if (resolve name.raw).isEmpty then some { name := name.raw, pattern := set.text } else none

/-- What is wrong with the first name that stands for no project. -/
def unresolved? : Option UnresolvedProject :=
  set.names.findSome? (set.missing? resolve)

/-- The combinations of ids that a pattern stands for. -/
def combinations (p : ProjectPattern) : List (List String) :=
  (choices (p.names.toList.map fun name => resolve name.raw)).map Text.sortedSet

/-- The set with the ids that its names stand for in their place. -/
def byId : ResolvedProjects :=
  ⟨set.patterns.toList.map (combinations resolve)⟩

/-- A pattern is resolved name by name, and fails at its first name that stands for
nothing. -/
theorem resolvePattern_eq (p : ProjectPattern) :
    set.resolvePattern resolve p =
      unlessFault (p.names.toList.findSome? (set.missing? resolve)) (combinations resolve p) := by
  have hName : set.resolveName resolve = fun name =>
      unlessFault (set.missing? resolve name) (resolve name.raw) := by
    funext name
    rw [resolveName, missing?]
    split <;> rfl
  rw [resolvePattern, hName, list_mapM_unlessFault, bind_pure_unlessFault]
  rfl

/-- **Resolving a tag** fails at its first name that stands for no project. When there
is none, it puts the ids of each name in its place. -/
theorem resolve_eq :
    set.resolve resolve = unlessFault (set.unresolved? resolve) (set.byId resolve) := by
  have hPattern : set.resolvePattern resolve = fun p =>
      unlessFault (p.names.toList.findSome? (set.missing? resolve)) (combinations resolve p) :=
    funext (set.resolvePattern_eq resolve)
  rw [ProjectPatternSet.resolve, hPattern, list_mapM_unlessFault, bind_pure_unlessFault,
    unresolved?, names, findSome?_flatMap]
  rfl

theorem missing?_eq_none_iff {name : ProjectName} :
    set.missing? resolve name = none ↔ resolve name.raw ≠ [] := by
  simp [missing?]

/-- Nothing is wrong with a set when every name of it stands for some project. -/
theorem unresolved?_eq_none_iff :
    set.unresolved? resolve = none ↔ ∀ name ∈ set.names, resolve name.raw ≠ [] := by
  simp only [unresolved?, List.findSome?_eq_none_iff, missing?_eq_none_iff]

/-- The ids of a resolved set are those that its names stand for. -/
theorem allIds_byId (h : ∀ name ∈ set.names, resolve name.raw ≠ []) :
    (set.byId resolve).allIds =
      Text.sortedSet (set.names.flatMap fun name => resolve name.raw) := by
  refine Text.sortedSet_eq_of_mem_iff fun x => ?_
  -- every name stands for something, so every id it stands for is in some combination
  have hPattern : ∀ p ∈ set.patterns.toList,
      ((∃ combination ∈ combinations resolve p, x ∈ combination) ↔
        ∃ name ∈ p.names.toList, x ∈ resolve name.raw) := by
    intro p hp
    have hSome : ∀ l ∈ p.names.toList.map fun name => resolve name.raw, l ≠ [] :=
      List.forall_mem_map.mpr fun name hName => h name (List.mem_flatMap.mpr ⟨p, hp, hName⟩)
    have hChoice := exists_mem_choice_iff hSome (x := x)
    simpa [combinations] using hChoice
  simp only [byId, names, List.mem_flatten, List.mem_flatMap, List.mem_map,
    exists_exists_and_eq_and]
  constructor
  · rintro ⟨combination, ⟨p, hp, hCombination⟩, hx⟩
    obtain ⟨name, hName, hx⟩ := (hPattern p hp).mp ⟨combination, hCombination, hx⟩
    exact ⟨name, ⟨p, hp, hName⟩, hx⟩
  · rintro ⟨name, ⟨p, hp, hName⟩, hx⟩
    obtain ⟨combination, hCombination, hx⟩ := (hPattern p hp).mpr ⟨name, hName, hx⟩
    exact ⟨combination, ⟨p, hp, hCombination⟩, hx⟩

/-- Some combination of a pattern is among the ids exactly when each of its names stands for one
of them. -/
theorem any_combinations_iff (p : ProjectPattern) (ids : List String) :
    ((combinations resolve p).any fun combination => combination.all ids.contains) = true ↔
      ∀ name ∈ p.names.toList, ∃ id ∈ resolve name.raw, id ∈ ids := by
  rw [← List.forall_mem_map (P := fun l => ∃ id ∈ l, id ∈ ids), ← exists_choice_iff]
  -- that a combination is sorted and free of repeats does not matter to membership
  simp [combinations]

/-- A ticket without projects is no case of its own: it has no id for a name to stand for. -/
theorem findMatch?_byId (ids : List String) :
    (set.byId resolve).findMatch? ids = set.patterns.toList.findIdx? fun p =>
      (combinations resolve p).any fun combination => combination.all ids.contains := by
  rw [ResolvedProjects.findMatch?]
  split
  · next hEmpty =>
    rw [eq_comm, List.findIdx?_eq_none_iff]
    intro p _
    rw [Bool.eq_false_iff, Ne, any_combinations_iff, List.isEmpty_iff.mp hEmpty]
    intro hEach
    -- every pattern has a name, which would have to stand for an id of the ticket
    obtain ⟨id, -, hId⟩ := hEach p.names.head List.mem_cons_self
    simp at hId
  · rw [byId, List.findIdx?_map]
    rfl

/-- A ticket has the tag when for some pattern each name stands for one of its ids. -/
theorem isMatch_byId_iff (ids : List String) :
    (set.byId resolve).isMatch ids = true ↔
      ∃ p ∈ set.patterns.toList, ∀ name ∈ p.names.toList, ∃ id ∈ resolve name.raw, id ∈ ids := by
  rw [ResolvedProjects.isMatch, findMatch?_byId, List.findIdx?_isSome, List.any_eq_true]
  simp only [any_combinations_iff]

end ProjectPatternSet

end TicketTrail
