import TicketTrail.Proofs.Pattern.Absence
import TicketTrail.Proofs.Search.Boards
import TicketTrail.Proofs.Search.Operators
import TicketTrail.Search.Run

/-!
# Tickets that never changed columns

When column patterns look at the history only, a search can remark on a ticket without
column history that only negated and `never:` conditions can hold of it. This module
says that the remark is right, and what comes of it. On each board such a ticket has no
moves, so a condition on the history holds exactly when it asks for an absence, and a
condition on the current column goes by the column. Without conditions of the second
sort nothing is left that could tell one board from another: neither the columns of the
board, nor their ranks, nor the column the ticket is in. The patterns match on all
candidate boards or on none.

Main results:

* `BoardView.satisfies_of_no_changes` — which patterns hold where there are no moves;
* `Search.matchedBoards?_isSome_iff` — when a ticket passes the column filter;
* `Search.unmoved_ticket_matches` — which boards are told of a ticket that never
  changed columns.
-/

namespace TicketTrail

namespace Condition

/-- The condition holds of a ticket that never changed columns and is in the given one. -/
def holdsUnmoved (now : Option String) (c : Condition) : Bool :=
  match c.kind with
  | .current target => (now == some target) != c.negated
  | _ => c.isAbsence

/-- A condition on the history holds of such a ticket when it asks for an absence. -/
theorem holdsUnmoved_eq {c : Condition} (h : c.kind.isCurrentOnly = false) (now : Option String) :
    c.holdsUnmoved now = c.isAbsence := by
  obtain ⟨kind, negated⟩ := c
  cases kind with
  | current target => cases h
  | left target direction | entered target | been target | never target | moved direction => rfl

end Condition

/-- Without conditions on the current column it does not matter what column that is. -/
theorem PatternSet.all_holdsUnmoved_eq {set : PatternSet}
    (h : ∀ c ∈ set.conditions, c.kind.isCurrentOnly = false) (now : Option String) :
    ∀ p ∈ set.patterns.toList,
      p.conditions.toList.all (Condition.holdsUnmoved now) =
        p.conditions.toList.all Condition.isAbsence := by
  intro p hp
  -- condition by condition, and none of them is about the current column
  rw [Bool.eq_iff_iff, List.all_eq_true, List.all_eq_true]
  refine forall₂_congr fun c hc => ?_
  rw [Condition.holdsUnmoved_eq (h c (mem_conditions hp hc))]

/-! ## One board -/

namespace BoardView

variable {v : BoardView} (h : v.changes = [])

include h

/-- Without moves, each condition is judged by the current column and by what it asks for. -/
theorem meets_of_no_changes : v.Meets = Condition.holdsUnmoved v.now := by
  funext c
  have hMoves : v.moves = [] := by rw [moves, h, List.map_nil]
  rw [Meets, hMoves]
  -- a condition on the current column asks nothing of the moves
  by_cases hCurrent : c.kind.isCurrentOnly = true
  · obtain ⟨kind, negated⟩ := c
    cases kind with
    | current target =>
      -- the names of columns are compared exactly
      show ((v.now.any fun state => state == target) != negated) =
        ((v.now == some target) != negated)
      cases v.now <;> rfl
    | left target direction | entered target | been target | never target | moved direction =>
      cases hCurrent
  · rw [Condition.holds_of_no_moves (fun hOnly => absurd hOnly hCurrent),
      Condition.holdsUnmoved_eq (Bool.eq_false_iff.mpr hCurrent)]

/-- Where there are no moves a pattern holds when each of its conditions asks for an
absence or is right about the current column. -/
theorem satisfies_of_no_changes :
    v.Satisfies = fun p => p.conditions.toList.all (Condition.holdsUnmoved v.now) := by
  funext p
  rw [satisfies_eq_all, meets_of_no_changes h]

end BoardView

/-- A ticket without column history made no move on any board. -/
theorem Ticket.changes_of_unmoved {t : Ticket} (h : t.hasColumnHistory = false)
    (snapshot : Snapshot) (board : String) : (t.viewOn snapshot board).changes = [] := by
  rw [viewOn, List.map_eq_nil_iff, List.filter_eq_nil_iff]
  intro change hChange hField
  rw [hasColumnHistory, List.any_eq_false] at h
  have hOther := h change hChange
  rw [eq_of_beq hField] at hOther
  exact hOther rfl

/-- The first pattern that holds so is the one that matches. -/
theorem Catalog.match?_of_unmoved {t : Ticket} (h : t.hasColumnHistory = false)
    (snapshot : Snapshot) (settings : Settings) (set : PatternSet) (board : String) :
    ((ofSnapshot snapshot settings).boardHistory t board).match? set =
      (set.patterns.toList.findIdx? fun p =>
        p.conditions.toList.all (Condition.holdsUnmoved (t.viewOn snapshot board).now)).map
          (BoardMatch.mk board) := by
  obtain ⟨hScale, hMoves, hCurrent⟩ := boardHistory_eq_ofView snapshot settings t board
  have hHolds := BoardView.satisfies_of_no_changes (t.changes_of_unmoved h snapshot board)
  rw [BoardHistory.match?_eq_map_index, PatternSet.findMatch?_index, hScale, hMoves, hCurrent,
    ← hHolds]
  rfl

/-! ## The column filter -/

namespace Search

variable {s : Search} {set : PatternSet} {t : Ticket}

/-- A set matches on a board when some pattern passes the test that the match goes by. -/
theorem matchesOn_of_match? {board : String} {test : Pattern → Bool}
    (h : (s.catalog.boardHistory t board).match? set =
      (set.patterns.toList.findIdx? test).map (BoardMatch.mk board)) :
    s.MatchesOn set t board = true ↔ ∃ p ∈ set.patterns.toList, test p = true := by
  have hMatch : s.MatchesOn set t board =
      ((s.catalog.boardHistory t board).match? set).isSome := by
    rw [MatchesOn, PatternSet.holds, BoardHistory.match?, Option.isSome_map]
  rw [hMatch, h, Option.isSome_map, List.findIdx?_isSome, List.any_eq_true]

theorem withPatterns_column (hColumn : s.filters.column = some set) :
    s.withPatterns .column (some set) = s := by
  rw [withPatterns, Filters.withPatterns, ← hColumn]

/-- A ticket passes the column filter when the patterns match on some candidate board. -/
theorem matchedBoards?_isSome_iff (hColumn : s.filters.column = some set) :
    (s.matchedBoards? t).isSome = true ↔
      ∃ board ∈ s.candidates t, s.MatchesOn set t board = true := by
  rw [← withPatterns_column hColumn, matchedBoards?_withPatterns, Option.isSome_map,
    verdict?_column_isSome]
  exact exists_congr fun board => mem_boardsOn

theorem boards_of_evaluate_column {g : Grounds} (hColumn : s.filters.column = some set)
    (h : s.evaluate t = some g) : g.boards = (s.boardsOn set t).map s.catalog.projectName := by
  rw [← withPatterns_column hColumn] at h
  exact boards_of_evaluate h

/-- Patterns that match on every board alike, or on none, are told with every candidate
or with none. -/
theorem boardMatches_of_match? {index : Option Nat}
    (h : ∀ board, (s.catalog.boardHistory t board).match? set = index.map (BoardMatch.mk board)) :
    s.boardMatches set t =
      (s.candidates t).filterMap fun board => index.map (BoardMatch.mk board) := by
  -- each candidate answers by itself, and all of them alike
  rw [boardMatches, matchBoards, Catalog.boardHistories, List.filterMap_map]
  exact List.filterMap_congr fun board _ => h board

end Search

/-- The remark is made on every ticket without column history when the column patterns
look at the history only. -/
theorem Plan.mem_historyRemarks {plan : Plan} {set : PatternSet} {t : Ticket}
    {tickets : List Ticket} (hColumn : plan.filters.column = some set)
    (hHistory : ∀ c ∈ set.conditions, c.kind.isCurrentOnly = false)
    (hTicket : t ∈ tickets) (hUnmoved : t.hasColumnHistory = false) :
    t.monogram ++ " has no column history; only negated and never: conditions can hold" ∈
      plan.historyRemarks tickets := by
  have hNeeds : plan.needsColumnHistory = true := by
    have hNone : set.conditions.any (fun c => c.kind.isCurrentOnly) = false :=
      List.any_eq_false.mpr fun c hc => Bool.eq_false_iff.mp (hHistory c hc)
    rw [needsColumnHistory, hColumn, Option.any_some, hNone]
    rfl
  rw [historyRemarks, if_pos hNeeds]
  refine List.mem_map.mpr ⟨t, List.mem_filter.mpr ⟨hTicket, ?_⟩, rfl⟩
  rw [hUnmoved]
  rfl

/-! ## What is told -/

namespace Search

/-- **A ticket that never changed columns.** On each board the patterns match when in
one of them each condition asks for an absence or is right about the current column, and
the first such pattern is told; the ticket passes the column filter when that is so on
some candidate board. Column patterns without `in:` are remarked on, and rightly: with
them it depends on the patterns alone. If one of them asks for absences only, the ticket
passes as soon as there is a candidate board, and every candidate is told, with the
first such pattern. -/
theorem unmoved_ticket_matches (snapshot : Snapshot) (settings : Settings) (filters : Filters)
    (tag : Option ResolvedProjects) {set : PatternSet} {t : Ticket}
    (hColumn : filters.column = some set) (hUnmoved : t.hasColumnHistory = false) :
    let s : Search := ⟨filters, Catalog.ofSnapshot snapshot settings, tag⟩
    let patterns := set.patterns.toList
    let holdsOn board (p : Pattern) :=
      p.conditions.toList.all (Condition.holdsUnmoved (t.viewOn snapshot board).now)
    (∀ board, (s.catalog.boardHistory t board).match? set =
        (patterns.findIdx? (holdsOn board)).map (BoardMatch.mk board)) ∧
      ((s.matchedBoards? t).isSome = true ↔
        ∃ board ∈ s.candidates t, ∃ p ∈ patterns, holdsOn board p = true) ∧
      ((∀ c ∈ set.conditions, c.kind.isCurrentOnly = false) →
        let asksAbsences (p : Pattern) := p.conditions.toList.all Condition.isAbsence
        (∀ (plan : Plan) (tickets : List Ticket), plan.filters = filters → t ∈ tickets →
          t.monogram ++ " has no column history; only negated and never: conditions can hold" ∈
            plan.historyRemarks tickets) ∧
        (∀ board, (s.catalog.boardHistory t board).match? set =
          (patterns.findIdx? asksAbsences).map (BoardMatch.mk board)) ∧
        ((s.matchedBoards? t).isSome = true ↔
          (∃ p ∈ patterns, asksAbsences p = true) ∧ s.candidates t ≠ []) ∧
        (∀ index, patterns.findIdx? asksAbsences = some index →
          s.boardMatches set t = (s.candidates t).map fun board => ⟨board, index⟩) ∧
        ∀ g, s.evaluate t = some g →
          g.boards = (s.candidates t).map s.catalog.projectName) := by
  intro s patterns holdsOn
  have hMatch : ∀ board, (s.catalog.boardHistory t board).match? set =
      (patterns.findIdx? (holdsOn board)).map (BoardMatch.mk board) :=
    Catalog.match?_of_unmoved hUnmoved snapshot settings set
  refine ⟨hMatch, ?_, ?_⟩
  · rw [matchedBoards?_isSome_iff hColumn]
    exact exists_congr fun board => and_congr_right fun _ => matchesOn_of_match? (hMatch board)
  intro hHistory asksAbsences
  -- with no condition on the current column every board is judged alike
  have hAlike : ∀ board, (s.catalog.boardHistory t board).match? set =
      (patterns.findIdx? asksAbsences).map (BoardMatch.mk board) := by
    intro board
    have hSame := PatternSet.all_holdsUnmoved_eq hHistory (t.viewOn snapshot board).now
    rw [hMatch, findIdx?_eq_of_forall₂ (R := fun p q => holdsOn board p = asksAbsences q)
      (List.forall₂_same.mpr hSame) fun _ _ h => h]
  have hMatchesOn : ∀ board, s.MatchesOn set t board = true ↔
      ∃ p ∈ patterns, asksAbsences p = true := fun board => matchesOn_of_match? (hAlike board)
  have hPasses : (s.matchedBoards? t).isSome = true ↔
      (∃ p ∈ patterns, asksAbsences p = true) ∧ s.candidates t ≠ [] := by
    rw [matchedBoards?_isSome_iff hColumn]
    constructor
    · rintro ⟨board, hBoard, hMatches⟩
      exact ⟨(hMatchesOn board).mp hMatches, List.ne_nil_of_mem hBoard⟩
    · rintro ⟨hPattern, hSome⟩
      obtain ⟨board, hBoard⟩ := List.exists_mem_of_ne_nil _ hSome
      exact ⟨board, hBoard, (hMatchesOn board).mpr hPattern⟩
  refine ⟨?_, hAlike, hPasses, ?_, ?_⟩
  · rintro plan tickets rfl hTicket
    exact Plan.mem_historyRemarks hColumn hHistory hTicket hUnmoved
  · intro index hIndex
    rw [boardMatches_of_match? hAlike, hIndex]
    exact congrFun List.filterMap_eq_map' _
  · intro g hEvaluate
    have hPassed : (s.matchedBoards? t).isSome = true := by
      rw [(evaluate_eq_some_iff.mp hEvaluate).2.1]
      rfl
    have hAll : ∀ board ∈ s.candidates t, s.MatchesOn set t board = true := fun board _ =>
      (hMatchesOn board).mpr (hPasses.mp hPassed).1
    rw [boards_of_evaluate_column hColumn hEvaluate, boardsOn_eq_filter,
      List.filter_eq_self.mpr hAll]

/-- A ticket on two boards that only ever changed its status. -/
def restingTicket : Ticket :=
  { mirroredTicket with history := [{ crossing "P1" with field := .status }] }

/-- The patterns `been:Done` and `never:Doing+not:forward`. -/
def doneOrNeverStarted : PatternSet :=
  ⟨⟨⟨⟨⟨.been "Done", false⟩, []⟩⟩,
    [⟨⟨⟨.never "Doing", false⟩, [⟨.moved .forward, true⟩]⟩⟩]⟩⟩

/-- The pattern `in:Done+not:from:Doing`. -/
def doneUnmoved : PatternSet :=
  ⟨⟨⟨⟨⟨.current "Done", false⟩, [⟨.left "Doing" none, true⟩]⟩⟩, []⟩⟩

/-- Conditions on the history match on both boards, and one on the current column on the
first alone. -/
theorem unmoved_ticket_matches_resting :
    let onHistory : Search :=
      ⟨{ column := some doneOrNeverStarted }, Catalog.ofSnapshot mirroredSnapshot {}, none⟩
    let onPlace : Search :=
      ⟨{ column := some doneUnmoved }, Catalog.ofSnapshot mirroredSnapshot {}, none⟩
    restingTicket.hasColumnHistory = false ∧
      onHistory.boardMatches doneOrNeverStarted restingTicket = [⟨"P1", 1⟩, ⟨"P2", 1⟩] ∧
      (onHistory.matchedBoards? restingTicket).isSome = true ∧
      (onPlace.catalog.boardHistory restingTicket "P1").match? doneUnmoved = some ⟨"P1", 0⟩ ∧
      (onPlace.catalog.boardHistory restingTicket "P2").match? doneUnmoved = none := by
  intro onHistory onPlace
  obtain ⟨-, -, hHistory⟩ := unmoved_ticket_matches mirroredSnapshot {}
    { column := some doneOrNeverStarted } none rfl (t := restingTicket) rfl
  obtain ⟨-, -, hPasses, hTold, -⟩ := hHistory (by decide)
  obtain ⟨hMatch, -⟩ := unmoved_ticket_matches mirroredSnapshot {}
    { column := some doneUnmoved } none rfl (t := restingTicket) rfl
  exact ⟨rfl, hTold 1 rfl, hPasses.mpr ⟨⟨_, List.mem_cons_of_mem _ List.mem_cons_self, rfl⟩,
    by decide⟩, hMatch "P1", hMatch "P2"⟩

end Search

end TicketTrail
