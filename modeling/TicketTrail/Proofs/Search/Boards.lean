import TicketTrail.Proofs.Search.Rearrangement

/-!
# One board at a time

Column patterns are matched on each candidate board by itself. All they look at is
what the ticket's entry and changes on that board and the board's own columns say:
the *view* of the ticket on the board (`Ticket.viewOn`). Other boards can hold
columns with the same ids or the same names in another order, and the changes of
all boards stand mixed in one history, together with those of the status and the
priority; none of it is in the view.

Main results:

* `Catalog.boardHistory_eq_ofView` — what is matched on a board is the view,
  translated by the board's own columns;
* `matchBoards_eq_filterMap` — each candidate is judged by its view alone;
* `matchBoards_by_view` — the boards told are those whose view matches, and tickets
  with one view get one verdict.
-/

namespace TicketTrail

/-! ## Views -/

/-- The columns of a board: those of the last project that has the id and columns. -/
def Snapshot.columnsOf (snapshot : Snapshot) (board : String) : List Column :=
  ((snapshot.projects.reverse.find? fun p => !p.columns.isEmpty && p.id == board).map
    Project.columns).getD []

/-- All that column patterns look at on one board. -/
structure BoardView where
  /-- The board's own columns. -/
  columns : List Column
  /-- The id of the column the ticket is in on the board. -/
  place : Option String
  /-- The ticket's column changes on the board, between column ids, as recorded. -/
  changes : List Move
deriving DecidableEq

/-- What a snapshot shows of a ticket on one board. -/
def Ticket.viewOn (t : Ticket) (snapshot : Snapshot) (board : String) : BoardView where
  columns := snapshot.columnsOf board
  place := t.columns.get? board
  changes := (t.history.filter (·.field == .column board)).map fun change => change.toMove

namespace BoardView

/-- The name of a column: the last of the board's own columns with the id gives it,
and an id without a column stands for itself. -/
def columnName (v : BoardView) (id : String) : String :=
  ((v.columns.reverse.find? (·.id == id)).map Column.name).getD id

/-- The board's own ranks, none for a board without columns. -/
def scale (v : BoardView) : Scale :=
  ⟨.column, .ofPairs .exact (v.columns.map fun c => (c.name, c.sequence.toInt))⟩

/-- The moves on the board, by name. -/
def moves (v : BoardView) : List Move :=
  v.changes.map (Move.rename v.columnName)

/-- The name of the column the ticket is in. -/
def now (v : BoardView) : Option String :=
  v.place.map v.columnName

/-- The condition holds on the board. -/
def Meets (v : BoardView) (c : Condition) : Bool :=
  c.holds v.scale v.moves v.now

/-- The pattern holds on the board. -/
def Satisfies (v : BoardView) (p : Pattern) : Bool :=
  p.holds v.scale v.moves v.now

/-- The match of a set of column patterns on the board. -/
def findMatch? (v : BoardView) (set : PatternSet) : Option PatternMatch :=
  set.findMatch? v.scale v.moves v.now

theorem satisfies_eq_all (v : BoardView) (p : Pattern) :
    v.Satisfies p = p.conditions.toList.all v.Meets := rfl

/-- A set matches on a board when one of its patterns holds there. -/
theorem findMatch?_isSome_eq_any (v : BoardView) (set : PatternSet) :
    (v.findMatch? set).isSome = set.patterns.toList.any v.Satisfies :=
  PatternSet.findMatch?_isSome v.scale v.moves v.now set

/-- A board without columns ranks nothing. -/
theorem rank?_of_no_columns {v : BoardView} (h : v.columns = []) (name : String) :
    v.scale.rank? name = none := by
  rw [scale, h]
  exact RankTable.rank?_empty .exact name

end BoardView

/-! ## The view is what is matched -/

namespace Catalog

variable (snapshot : Snapshot) (settings : Settings)

/-- A board of the catalog is made of the last project that has its id and columns. -/
theorem board?_ofSnapshot (board : String) :
    (ofSnapshot snapshot settings).board? board =
      (snapshot.projects.reverse.find? fun p => !p.columns.isEmpty && p.id == board).map
        Workboard.ofProject := by
  show ((((snapshot.projects.filter (!·.columns.isEmpty)).map Workboard.ofProject).reverse).find?
    (·.id == board)) = _
  rw [← List.map_reverse, ← List.filter_reverse, List.find?_map, List.find?_filter]
  simp only [Bool.decide_and, Bool.decide_eq_true]
  rfl

/-- The catalog names the columns of a board as the view does. -/
theorem columnName_eq_viewOn (t : Ticket) (board : String) :
    (ofSnapshot snapshot settings).columnName board = (t.viewOn snapshot board).columnName := by
  funext id
  rw [columnName, board?_ofSnapshot, BoardView.columnName, Ticket.viewOn, Snapshot.columnsOf]
  -- a board without a project has no columns, so there too every id stands for itself
  cases snapshot.projects.reverse.find? fun p => !p.columns.isEmpty && p.id == board <;> rfl

/-- The catalog ranks the columns of a board as the view does. -/
theorem boardScale_eq_viewOn (t : Ticket) (board : String) :
    (ofSnapshot snapshot settings).boardScale board = (t.viewOn snapshot board).scale := by
  rw [boardScale, board?_ofSnapshot, BoardView.scale, Ticket.viewOn, Snapshot.columnsOf]
  cases snapshot.projects.reverse.find? fun p => !p.columns.isEmpty && p.id == board <;> rfl

theorem axis_boardScale (board : String) :
    ((ofSnapshot snapshot settings).boardScale board).axis = .column := by
  rw [boardScale, board?_ofSnapshot]
  cases snapshot.projects.reverse.find? fun p => !p.columns.isEmpty && p.id == board <;> rfl

/-- What is matched on a board is the ticket's view, translated by the board's own
columns. -/
theorem boardHistory_eq_ofView (t : Ticket) (board : String) :
    ((ofSnapshot snapshot settings).boardHistory t board).scale = (t.viewOn snapshot board).scale ∧
      ((ofSnapshot snapshot settings).boardHistory t board).moves =
        (t.viewOn snapshot board).moves ∧
      ((ofSnapshot snapshot settings).boardHistory t board).current =
        (t.viewOn snapshot board).now := by
  have hName := columnName_eq_viewOn snapshot settings t board
  refine ⟨boardScale_eq_viewOn snapshot settings t board, ?_, ?_⟩
  · rw [BoardView.moves, ← hName, Ticket.viewOn, List.map_map]
    show (((t.history.filter _).map _).map _).map _ = _
    rw [List.map_map, List.map_map]
    -- renaming the states and dropping the time commute
    rfl
  · rw [BoardView.now, ← hName]
    rfl

end Catalog

/-! ## Each board by itself -/

section MatchBoards

variable (snapshot : Snapshot) (settings : Settings) (t : Ticket) (set : PatternSet)

/-- Each candidate is judged by its view alone, and told with the first pattern that
holds there. -/
theorem matchBoards_eq_filterMap (candidates : List String) :
    matchBoards set ((Catalog.ofSnapshot snapshot settings).boardHistories t candidates) =
      candidates.filterMap fun board =>
        (set.patterns.toList.findIdx? (t.viewOn snapshot board).Satisfies).map
          (BoardMatch.mk board) := by
  rw [matchBoards, Catalog.boardHistories, List.filterMap_map]
  congr 1
  funext board
  -- scale, moves and current column are all that a match looks at
  obtain ⟨hScale, hMoves, hCurrent⟩ := Catalog.boardHistory_eq_ofView snapshot settings t board
  rw [Function.comp_apply, BoardHistory.match?_eq_map_index, PatternSet.findMatch?_index, hScale,
    hMoves, hCurrent]
  rfl

/-- A board is told when it is a candidate, with the first pattern that holds on its view. -/
theorem mem_matchBoards_iff {candidates : List String} {m : BoardMatch} :
    m ∈ matchBoards set ((Catalog.ofSnapshot snapshot settings).boardHistories t candidates) ↔
      m.board ∈ candidates ∧
        set.patterns.toList.findIdx? (t.viewOn snapshot m.board).Satisfies = some m.pattern := by
  rw [matchBoards_eq_filterMap, List.mem_filterMap]
  constructor
  · rintro ⟨board, hBoard, hFound⟩
    obtain ⟨index, hIndex, rfl⟩ := Option.map_eq_some_iff.mp hFound
    exact ⟨hBoard, hIndex⟩
  · rintro ⟨hBoard, hIndex⟩
    exact ⟨m.board, hBoard, by rw [hIndex]; rfl⟩

/-- The boards told are the candidates on whose view the patterns match. -/
theorem map_board_matchBoards (candidates : List String) :
    (matchBoards set ((Catalog.ofSnapshot snapshot settings).boardHistories t candidates)).map
        BoardMatch.board =
      candidates.filter fun board => ((t.viewOn snapshot board).findMatch? set).isSome := by
  rw [matchBoards_eq_filterMap, List.map_filterMap, ← List.filterMap_eq_filter]
  congr 1
  funext board
  -- a board is told under its own id or not at all
  rw [Option.map_map, Option.guard, BoardView.findMatch?_isSome_eq_any, ← List.findIdx?_isSome]
  cases set.patterns.toList.findIdx? (t.viewOn snapshot board).Satisfies <;> rfl

end MatchBoards

/-- **Boards are matched one at a time.** The boards told are the candidates on whose
view the patterns match, in the order and as often as they are given, each with the
first pattern that holds there. All conditions of that pattern hold on the one
board, and on a board that is not told each pattern fails by itself. A board without
columns ranks nothing. Whatever else tickets and snapshots hold, tickets with one
view of a board get one verdict on it. -/
theorem matchBoards_by_view (snapshot : Snapshot) (settings : Settings) (t : Ticket)
    (set : PatternSet) (candidates : List String) :
    let told := matchBoards set
      ((Catalog.ofSnapshot snapshot settings).boardHistories t candidates)
    let view := t.viewOn snapshot
    told.map BoardMatch.board =
        candidates.filter (fun board => ((view board).findMatch? set).isSome) ∧
      (∀ m ∈ told, set.patterns.toList.findIdx? (view m.board).Satisfies = some m.pattern ∧
        ∃ p, set.patterns.toList[m.pattern]? = some p ∧
          ∀ c ∈ p.conditions.toList, (view m.board).Meets c = true) ∧
      (∀ board, snapshot.columnsOf board = [] → ∀ name, (view board).scale.rank? name = none) ∧
      (∀ board ∈ candidates, board ∉ told.map BoardMatch.board → ∀ p ∈ set.patterns.toList,
        ∃ c ∈ p.conditions.toList, (view board).Meets c = false) ∧
      (∀ board ∈ candidates, ∀ (snapshot' : Snapshot) (settings' : Settings) (t' : Ticket)
        (candidates' : List String), board ∈ candidates' →
          t'.viewOn snapshot' board = view board → ∀ index,
            ⟨board, index⟩ ∈ matchBoards set
              ((Catalog.ofSnapshot snapshot' settings').boardHistories t' candidates') ↔
            ⟨board, index⟩ ∈ told) := by
  intro told view
  have hTold : told.map BoardMatch.board =
      candidates.filter fun board => ((view board).findMatch? set).isSome :=
    map_board_matchBoards snapshot settings t set candidates
  refine ⟨hTold, ?_, ?_, ?_, ?_⟩
  · intro m hm
    have hIndex := ((mem_matchBoards_iff snapshot settings t set).mp hm).2
    obtain ⟨hBound, hHolds, -⟩ := List.findIdx?_eq_some_iff_getElem.mp hIndex
    -- all conditions of the pattern are asked of the one board
    rw [BoardView.satisfies_eq_all, List.all_eq_true] at hHolds
    exact ⟨hIndex, _, List.getElem?_eq_getElem hBound, hHolds⟩
  · intro board hColumns
    exact BoardView.rank?_of_no_columns hColumns
  · -- a candidate that is not told is one on which no pattern holds
    intro board hBoard hUntold p hp
    rw [hTold, List.mem_filter, BoardView.findMatch?_isSome_eq_any, not_and, List.any_eq_true]
      at hUntold
    have hFails : ¬ (view board).Satisfies p = true := fun hHolds =>
      hUntold hBoard ⟨p, hp, hHolds⟩
    rw [BoardView.satisfies_eq_all, Bool.not_eq_true, List.all_eq_false] at hFails
    simpa only [Bool.not_eq_true] using hFails
  · -- the verdict on a board reads nothing but the view
    intro board hBoard snapshot' settings' t' candidates' hBoard' hView index
    rw [mem_matchBoards_iff, mem_matchBoards_iff, hView, and_iff_right hBoard',
      and_iff_right hBoard]

/-- Two boards with columns of the same ids and names, in opposite order. -/
def mirroredSnapshot : Snapshot where
  projects := [
    { id := "P1", name := "Dev", columns := [⟨"C1", "Doing", 0⟩, ⟨"C2", "Done", 1⟩] },
    { id := "P2", name := "Ops", columns := [⟨"C1", "Done", 0⟩, ⟨"C2", "Doing", 1⟩] }]

/-- A move from the first column to the second, on the given board. -/
def crossing (board : String) : Change :=
  { prior := some "C1", next := "C2", time := .earliest, field := .column board }

/-- A ticket that made the same move on both boards. -/
def mirroredTicket : Ticket where
  id := 7
  title := "Crash"
  status := "open"
  priority := "80"
  createdAt := .earliest
  updatedAt := .earliest
  columns := Dictionary.ofList [("P1", "C2"), ("P2", "C2")]
  history := [crossing "P2", crossing "P1"]

/-- The pattern `from:Doing:forward+in:Done`. -/
def finished : PatternSet :=
  ⟨⟨⟨⟨.left "Doing" (some .forward), false⟩, [⟨.current "Done", false⟩]⟩, []⟩⟩

/-- With two boards whose columns have the same ids and each other's names. -/
theorem matchBoards_by_view_mirrored :
    matchBoards finished ((Catalog.ofSnapshot mirroredSnapshot {}).boardHistories mirroredTicket
        ["P2", "P1", "P9", "P1"]) = [⟨"P1", 0⟩, ⟨"P1", 0⟩] ∧
      (∃ c ∈ [⟨.left "Doing" (some .forward), false⟩, ⟨.current "Done", false⟩],
        (mirroredTicket.viewOn mirroredSnapshot "P2").Meets c = false) ∧
      ∀ index, ⟨"P1", index⟩ ∈ matchBoards finished
          ((Catalog.ofSnapshot mirroredSnapshot {}).boardHistories
            { mirroredTicket with
              columns := Dictionary.ofList [("P1", "C2")]
              history := [crossing "P1", { crossing "P1" with field := .status }] } ["P1"]) ↔
        ⟨"P1", index⟩ ∈ [BoardMatch.mk "P1" 0, ⟨"P1", 0⟩] := by
  -- the move goes forward on the first board, and backward on the second
  obtain ⟨-, -, -, hUntold, hView⟩ := matchBoards_by_view mirroredSnapshot {}
    mirroredTicket finished ["P2", "P1", "P9", "P1"]
  refine ⟨rfl, ?_, ?_⟩
  · exact hUntold "P2" (by decide) (by decide) _ List.mem_cons_self
  · exact hView "P1" (by decide) mirroredSnapshot {} _ ["P1"] (by decide) rfl

end TicketTrail
