import TicketTrail.Catalog
import TicketTrail.Search.Filters
import TicketTrail.Text.Split

/-!
# Evaluating filters on a ticket

A ticket is a hit when it passes every filter. The evaluation names the grounds for a hit: the
boards on which the column patterns matched, and the priority and the status pattern that matched.

## Main results

* `Search.evaluate_eq_some_iff` — a ticket is a hit exactly when it passes each filter by itself,
  and each part of the grounds is what its own filter says.
-/

namespace TicketTrail

/-- What made a ticket a hit. -/
structure Grounds where
  /-- The names of the boards on which the column patterns matched. -/
  boards : List String
  /-- The text of the priority pattern that matched. -/
  priority : Option String
  /-- The text of the status pattern that matched. -/
  status : Option String
deriving Repr, DecidableEq

/-- Filters together with what they are evaluated against. -/
structure Search where
  filters : Filters
  catalog : Catalog
  /-- The tag with ids in place of names. -/
  tag : Option ResolvedProjects
deriving Repr, DecidableEq

namespace Search

/-- The title holds the query, case aside. -/
def passesQuery (s : Search) (t : Ticket) : Bool :=
  s.filters.query.all fun query => Text.occursIn query.toList (Text.lower t.title).toList

/-- The ticket was created late enough. -/
def passesCreated (s : Search) (t : Ticket) : Bool :=
  s.filters.createdSince.all fun since => since.notAfter t.createdAt

/-- The ticket was updated late enough. -/
def passesUpdated (s : Search) (t : Ticket) : Bool :=
  s.filters.updatedSince.all fun since => since.notAfter t.updatedAt

/-- The ticket has the projects that the tag asks for. -/
def passesTag (s : Search) (t : Ticket) : Bool :=
  s.tag.all fun tag => tag.isMatch t.projects

/-- The boards on which column patterns are tried: those of the tag, or else those the ticket is
on. -/
def candidates (s : Search) (t : Ticket) : List String :=
  match s.tag with
  | some tag => tag.allIds
  | none => t.boards

/-- The boards on which a set of column patterns matches. -/
def boardMatches (s : Search) (set : PatternSet) (t : Ticket) : List BoardMatch :=
  matchBoards set (s.catalog.boardHistories t (s.candidates t))

/-- The names of the boards on which the column patterns match, unless there is none. Without column
patterns no board is named. -/
def matchedBoards? (s : Search) (t : Ticket) : Option (List String) :=
  match s.filters.column with
  | none => some []
  | some set =>
    match s.boardMatches set t with
    | [] => none
    | found => some (found.map fun m => s.catalog.projectName m.board)

/-- The match of the priority patterns. -/
def priorityMatch? (s : Search) (set : PatternSet) (t : Ticket) : Option PatternMatch :=
  set.findMatch? s.catalog.priority ((Catalog.priorityEvents t).map Event.toMove)
    (some (priorityName t.priority))

/-- The match of the status patterns. -/
def statusMatch? (s : Search) (set : PatternSet) (t : Ticket) : Option PatternMatch :=
  set.findMatch? s.catalog.status ((s.catalog.statusEvents t).map Event.toMove)
    (some (s.catalog.statusName t.status))

/-- The text of the pattern that matches, unless there is none; without patterns there is
no text. -/
def matchedText? (patterns : Option PatternSet) (find : PatternSet → Option PatternMatch) :
    Option (Option String) :=
  match patterns with
  | none => some none
  | some set => (find set).map fun found => some found.pattern.text

/-- What makes the ticket a hit, if it is one. -/
def evaluate (s : Search) (t : Ticket) : Option Grounds :=
  if s.passesQuery t && s.passesCreated t && s.passesUpdated t && s.passesTag t then do
    let boards ← s.matchedBoards? t
    let priority ← matchedText? s.filters.priority fun set => s.priorityMatch? set t
    let status ← matchedText? s.filters.status fun set => s.statusMatch? set t
    return { boards, priority, status }
  else
    none

/-- A ticket is a hit exactly when it passes each filter by itself, and each part of the grounds is
what its own filter says. -/
theorem evaluate_eq_some_iff {s : Search} {t : Ticket} {g : Grounds} :
    s.evaluate t = some g ↔
      (s.passesQuery t = true ∧ s.passesCreated t = true ∧ s.passesUpdated t = true ∧
        s.passesTag t = true) ∧
      s.matchedBoards? t = some g.boards ∧
      matchedText? s.filters.priority (fun set => s.priorityMatch? set t) = some g.priority ∧
      matchedText? s.filters.status (fun set => s.statusMatch? set t) = some g.status := by
  unfold evaluate
  split
  · next h =>
    simp only [Bool.and_eq_true, and_assoc] at h
    simp only [h, and_self, true_and, Option.bind_eq_bind, Option.bind_eq_some_iff,
      Option.pure_def, Option.some.injEq]
    constructor
    · rintro ⟨boards, hBoards, priority, hPriority, status, hStatus, rfl⟩
      exact ⟨hBoards, hPriority, hStatus⟩
    · rintro ⟨hBoards, hPriority, hStatus⟩
      exact ⟨g.boards, hBoards, g.priority, hPriority, g.status, hStatus, rfl⟩
  · next h =>
    simp only [Bool.and_eq_true, and_assoc] at h
    simp [h]

/-- The board filter names at least one board when there is one, and none when there is none. -/
theorem matchedBoards?_eq_some_iff {s : Search} {t : Ticket} {names : List String} :
    s.matchedBoards? t = some names ↔
      match s.filters.column with
      | none => names = []
      | some set => s.boardMatches set t ≠ [] ∧
          names = (s.boardMatches set t).map fun m => s.catalog.projectName m.board := by
  unfold matchedBoards?
  cases s.filters.column with
  | none => simp [eq_comm]
  | some set =>
    cases hFound : s.boardMatches set t with
    | nil => simp [hFound]
    | cons m rest => simp [hFound, eq_comm]

end Search

end TicketTrail
