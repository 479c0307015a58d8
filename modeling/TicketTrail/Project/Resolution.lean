import TicketTrail.Project.Pattern
import TicketTrail.Text.Sorted

/-!
# Project patterns by id

A name or glob is resolved to the ids of the projects it stands for. A pattern then has one
combination of ids for every way of choosing one id per name, and a ticket matches when it has all
ids of some combination.

## Main results

* `mem_choices` — the combinations are exactly the ways of choosing one id per name;
* `length_choices` — there are as many of them as the product of the numbers of ids.
-/

namespace TicketTrail

/-- A name in a project pattern that stands for no project. -/
structure UnresolvedProject where
  name : String
  /-- The text of the whole pattern set. -/
  pattern : String
deriving Repr, DecidableEq

/-- The error as it is told. -/
def UnresolvedProject.message (e : UnresolvedProject) : String :=
  "No projects matched '" ++ e.name ++ "' in tag pattern '" ++ e.pattern ++ "'"

/-- Every way of choosing one entry from each list; the choice from the first list varies
slowest. -/
def choices : List (List String) → List (List String)
  | [] => [[]]
  | ids :: rest => ids.flatMap fun id => (choices rest).map (id :: ·)

/-- A project pattern set with ids in place of names: for each pattern, the combinations of ids
that satisfy it, each as a sorted set. -/
structure ResolvedProjects where
  alternatives : List (List (List String))
deriving Repr, DecidableEq

namespace ProjectPatternSet

/-- The ids that a name stands for, of which there must be some. -/
def resolveName (set : ProjectPatternSet) (resolve : String → List String) (name : ProjectName) :
    Except UnresolvedProject (List String) :=
  let ids := resolve name.raw
  if ids.isEmpty then .error { name := name.raw, pattern := set.text } else .ok ids

/-- The combinations of ids that satisfy a pattern. -/
def resolvePattern (set : ProjectPatternSet) (resolve : String → List String)
    (p : ProjectPattern) : Except UnresolvedProject (List (List String)) := do
  let ids ← p.names.toList.mapM (set.resolveName resolve)
  return (choices ids).map Text.sortedSet

/-- Puts ids in place of all names. The first name that stands for no project is an error. -/
def resolve (set : ProjectPatternSet) (resolve : String → List String) :
    Except UnresolvedProject ResolvedProjects := do
  let alternatives ← set.patterns.toList.mapM (set.resolvePattern resolve)
  return ⟨alternatives⟩

end ProjectPatternSet

namespace ResolvedProjects

/-- Every id of every combination, as a sorted set. -/
def allIds (r : ResolvedProjects) : List String :=
  Text.sortedSet (r.alternatives.flatten.flatten)

/-- The index of the first pattern one of whose combinations is among the ticket's ids. A ticket
without projects matches nothing. -/
def findMatch? (r : ResolvedProjects) (ids : List String) : Option Nat :=
  if ids.isEmpty then none
  else r.alternatives.findIdx? fun combinations =>
    combinations.any fun combination => combination.all ids.contains

/-- Some pattern matches the ticket's ids. -/
def isMatch (r : ResolvedProjects) (ids : List String) : Bool :=
  (r.findMatch? ids).isSome

end ResolvedProjects

/-! ## Choices -/

/-- A choice has one entry from each list, in the order of the lists. -/
theorem mem_choices {lists : List (List String)} {choice : List String} :
    choice ∈ choices lists ↔
      choice.length = lists.length ∧ ∀ pair ∈ choice.zip lists, pair.1 ∈ pair.2 := by
  induction lists generalizing choice with
  | nil => cases choice <;> simp [choices]
  | cons ids rest ih =>
    cases choice with
    | nil => simp [choices]
    | cons id choice =>
      simp only [choices, List.mem_flatMap, List.mem_map, List.cons.injEq, ih, List.length_cons,
        Nat.add_right_cancel_iff, List.zip_cons_cons, List.mem_cons, forall_eq_or_imp]
      constructor
      · rintro ⟨id', hId, choice', ⟨hLen, hAll⟩, rfl, rfl⟩
        exact ⟨hLen, hId, hAll⟩
      · rintro ⟨hLen, hId, hAll⟩
        exact ⟨id, hId, choice, ⟨hLen, hAll⟩, rfl, rfl⟩

/-- There are as many choices as the product of the lengths of the lists. -/
theorem length_choices (lists : List (List String)) :
    (choices lists).length = (lists.map List.length).foldr (· * ·) 1 := by
  induction lists with
  | nil => rfl
  | cons ids rest ih =>
    simp only [choices, List.length_flatMap, List.length_map, ih, List.map_const',
      List.sum_replicate_nat, List.map_cons, List.foldr_cons]

end TicketTrail
