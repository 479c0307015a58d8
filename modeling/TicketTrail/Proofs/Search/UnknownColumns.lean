import TicketTrail.Proofs.Search.Boards

/-!
# Columns that a board does not have

A history can speak of columns that its board no longer has. The id of such a column
stands for itself, among the names of the columns that are there, and names are what
has a rank. So an unknown id has no rank, and a move from or to it goes in no
direction, unless some column of the board happens to bear the id as its name: then
the id is taken for that column.

Main results:

* `BoardView.rank?_columnName_of_unknown` — the rank of an unknown id;
* `Catalog.unknown_columns_move_nowhere` — unknown ids fail closed, but for those that
  are the name of a column;
* `Catalog.unknown_column_moves_forward` — one that is.
-/

namespace TicketTrail

/-! ## Moves and ranks -/

namespace Move

variable {scale : Scale} {d : Direction} {m : Move}

/-- Leaving a state in a direction is a move that goes that way. -/
theorem goes_of_leaves {target : String} (h : m.leaves scale target (some d) = true) :
    m.goes scale d = true := by
  unfold leaves at h
  unfold goes
  cases hPrior : m.prior with
  | none => simp [hPrior] at h
  | some prior =>
    rw [hPrior] at h
    exact (Bool.and_eq_true_iff.mp h).2

/-- A move goes in a direction only between states that are ranked. -/
theorem ranked_of_goes (h : m.goes scale d = true) {state : String} (hState : state ∈ m.endpoints) :
    (scale.rank? state).isSome = true := by
  unfold goes at h
  unfold endpoints at hState
  cases hPrior : m.prior with
  | none => simp [hPrior] at h
  | some prior =>
    rw [hPrior] at h hState
    obtain ⟨a, b, ha, hb, -⟩ := Scale.moved_iff.mp h
    -- the two ends of the move are the two states that `moved` ranks
    rcases List.mem_cons.mp hState with rfl | hState
    · simp [ha]
    · rw [List.mem_singleton.mp hState]
      simp [hb]

/-- A move that satisfies a condition with a direction goes that way. -/
theorem goes_of_holds {kind : Condition.Kind} {now : Option String}
    (hKind : kind.direction? = some d) (h : Condition.Kind.holds scale [m] now kind = true) :
    m.goes scale d = true := by
  -- only `moved` and `left` have a direction, and both ask the move to go that way
  cases kind with
  | moved direction =>
    cases hKind
    simpa [Condition.Kind.holds] using h
  | left target direction =>
    cases hKind
    exact goes_of_leaves (by simpa [Condition.Kind.holds] using h)
  | entered target | current target | been target | never target => cases hKind

end Move

/-! ## Ids that stand for themselves -/

namespace BoardView

variable {v : BoardView} {id : String}

/-- An id that is no column of the board stands for itself. -/
theorem columnName_of_unknown (h : ∀ c ∈ v.columns, c.id ≠ id) : v.columnName id = id := by
  have hNone : v.columns.reverse.find? (·.id == id) = none := by
    rw [List.find?_eq_none]
    intro c hc
    simpa using h c (List.mem_reverse.mp hc)
  rw [columnName, hNone]
  rfl

/-- A name has the rank of the last column that bears it. -/
theorem rank?_eq_find? (hName : id ≠ "") :
    v.scale.rank? id =
      (v.columns.reverse.find? (·.name == id)).map fun c => c.sequence.toInt := by
  rw [Scale.rank?, scale, RankTable.rank?_ofPairs hName, ← List.map_reverse, List.find?_map,
    Option.map_map]
  rfl

/-- An unknown id has the rank of the last column of which it is the name, and else
none. -/
theorem rank?_columnName_of_unknown (h : ∀ c ∈ v.columns, c.id ≠ id) :
    v.scale.rank? (v.columnName id) =
      if id = "" then none
      else (v.columns.reverse.find? (·.name == id)).map fun c => c.sequence.toInt := by
  -- the empty name has no rank, whatever the columns are called
  rw [columnName_of_unknown h]
  split
  · next hName =>
    rw [hName]
    rfl
  · next hName => exact rank?_eq_find? hName

/-- An unknown id that is no name either has no rank. -/
theorem rank?_of_unnamed (h : ∀ c ∈ v.columns, c.id ≠ id)
    (hUnnamed : id = "" ∨ ∀ c ∈ v.columns, c.name ≠ id) :
    v.scale.rank? (v.columnName id) = none := by
  rw [rank?_columnName_of_unknown h]
  split
  · rfl
  · next hName =>
    have hNone : v.columns.reverse.find? (·.name == id) = none := by
      rw [List.find?_eq_none]
      intro c hc
      simpa using hUnnamed.resolve_left hName c (List.mem_reverse.mp hc)
    rw [hNone]
    rfl

end BoardView

theorem Event.endpoints_rename (f : String → String) (e : Event) :
    (e.rename f).endpoints = e.endpoints.map f := by
  rw [Move.endpoints, Move.endpoints, rename, List.map_append]
  cases e.prior <;> rfl

/-! ## Unknown ids in a history -/

namespace Catalog

theorem mem_columnEvents {catalog : Catalog} {t : Ticket} {board : String} {change : Change}
    (hChange : change ∈ t.history) (hField : change.field = .column board) :
    change.toEvent.rename (catalog.columnName board) ∈ catalog.columnEvents t board :=
  List.mem_map_of_mem (List.mem_map_of_mem (List.mem_filter.mpr ⟨hChange, by simp [hField]⟩))

/-- **Unknown columns fail closed, but for the names of columns.** The event of a column
change satisfies no condition with a direction when one end of the change is no column
of the board, neither by its id nor by its name. An unknown id that is a name has the
rank of the column it names, and takes part in directions as that column does. -/
theorem unknown_columns_move_nowhere (snapshot : Snapshot) (settings : Settings) (t : Ticket)
    (board : String) (change : Change) (hChange : change ∈ t.history)
    (hField : change.field = .column board) :
    let catalog := Catalog.ofSnapshot snapshot settings
    let scale := catalog.boardScale board
    let e := change.toEvent.rename (catalog.columnName board)
    e ∈ catalog.columnEvents t board ∧
      (∀ id ∈ change.endpoints, (∀ c ∈ snapshot.columnsOf board, c.id ≠ id) →
        (id = "" ∨ ∀ c ∈ snapshot.columnsOf board, c.name ≠ id) →
        ∀ now d, Condition.Kind.holds scale [e.toMove] now (.moved d) = false ∧
          ∀ X, Condition.Kind.holds scale [e.toMove] now (.left X (some d)) = false) ∧
      (∀ id, id ≠ "" → (∀ c ∈ snapshot.columnsOf board, c.id ≠ id) →
        scale.rank? (catalog.columnName board id) =
          ((snapshot.columnsOf board).reverse.find? (·.name == id)).map
            fun c => c.sequence.toInt) := by
  intro catalog scale e
  have hScale : scale = (t.viewOn snapshot board).scale :=
    boardScale_eq_viewOn snapshot settings t board
  have hName : catalog.columnName board = (t.viewOn snapshot board).columnName :=
    columnName_eq_viewOn snapshot settings t board
  refine ⟨mem_columnEvents hChange hField, ?_, ?_⟩
  · intro id hId hUnknown hUnnamed now d
    have hEnd : catalog.columnName board id ∈ e.endpoints := by
      rw [Event.endpoints_rename]
      exact List.mem_map_of_mem hId
    have hRank : scale.rank? (catalog.columnName board id) = none := by
      rw [hScale, hName]
      exact BoardView.rank?_of_unnamed (v := t.viewOn snapshot board) hUnknown hUnnamed
    -- one end of the event is without a rank, so it cannot go in any direction
    have hGoes : ¬ e.goes scale d = true := fun h => by
      have hSome := Move.ranked_of_goes h hEnd
      rw [hRank] at hSome
      cases hSome
    exact ⟨Bool.eq_false_iff.mpr fun h => hGoes (Move.goes_of_holds rfl h),
      fun X => Bool.eq_false_iff.mpr fun h => hGoes (Move.goes_of_holds rfl h)⟩
  · intro id hSome hUnknown
    rw [hScale, hName]
    exact (BoardView.rank?_columnName_of_unknown (v := t.viewOn snapshot board) hUnknown).trans
      (if_neg hSome)

/-- A board with two columns. -/
def pairSnapshot : Snapshot where
  projects := [{ id := "P1", name := "Dev", columns := [⟨"C1", "Doing", 0⟩, ⟨"C2", "Done", 1⟩] }]

/-- A move from an id to the last column of the board. -/
def finishing (id : String) : Change :=
  { prior := some id, next := "C2", time := .earliest, field := .column "P1" }

/-- A ticket that left two columns that the board does not have; the id of one of them
is the name of another column. -/
def strayTicket : Ticket where
  id := 7
  title := "Crash"
  status := "open"
  priority := "80"
  createdAt := .earliest
  updatedAt := .earliest
  columns := Dictionary.ofList [("P1", "C2")]
  history := [finishing "C9", finishing "Doing"]

/-- The id that is neither a column nor a name of one goes in no direction. -/
theorem unknown_columns_move_nowhere_stray :
    finishing "C9" ∈ strayTicket.history ∧ (finishing "C9").field = .column "P1" ∧
      (∀ c ∈ pairSnapshot.columnsOf "P1", c.id ≠ "C9" ∧ c.name ≠ "C9") ∧
      Condition.Kind.holds ((Catalog.ofSnapshot pairSnapshot {}).boardScale "P1")
        [⟨some "C9", "Done"⟩] none (.moved .forward) = false ∧
      Condition.Kind.holds ((Catalog.ofSnapshot pairSnapshot {}).boardScale "P1")
        [⟨some "C9", "Done"⟩] none (.left "C9" (some .forward)) = false := by
  have hUnknown : ∀ c ∈ pairSnapshot.columnsOf "P1", c.id ≠ "C9" ∧ c.name ≠ "C9" := by decide
  obtain ⟨-, hNowhere, -⟩ := unknown_columns_move_nowhere pairSnapshot {} strayTicket "P1"
    (finishing "C9") (by decide) rfl
  obtain ⟨hMoved, hLeft⟩ := hNowhere "C9" (by decide) (fun c hc => (hUnknown c hc).1)
    (Or.inr fun c hc => (hUnknown c hc).2) none .forward
  exact ⟨by decide, rfl, hUnknown, hMoved, hLeft "C9"⟩

/-- An id that is no column of the board is read as a name, and goes forward from the
column it names. -/
theorem unknown_column_moves_forward :
    ¬ ∀ (snapshot : Snapshot) (settings : Settings) (t : Ticket) (board : String)
        (change : Change), change ∈ t.history → change.field = .column board →
      (∃ id ∈ change.endpoints, ∀ c ∈ snapshot.columnsOf board, c.id ≠ id) →
      ∀ now d, let catalog := Catalog.ofSnapshot snapshot settings
        let e := change.toEvent.rename (catalog.columnName board)
        Condition.Kind.holds (catalog.boardScale board) [e.toMove] now (.moved d) = false ∧
          ∀ X, Condition.Kind.holds (catalog.boardScale board) [e.toMove] now
            (.left X (some d)) = false := by
  intro h
  obtain ⟨hMoved, -⟩ := h pairSnapshot {} strayTicket "P1" (finishing "Doing") (by decide) rfl
    ⟨"Doing", by decide, by decide⟩ none .forward
  -- `Doing` is the name of the first column, which is ranked below the last
  have hForward : Condition.Kind.holds ((Catalog.ofSnapshot pairSnapshot {}).boardScale "P1")
      [⟨some "Doing", "Done"⟩] none (.moved .forward) = true := by decide
  exact absurd (hMoved.symm.trans hForward) Bool.false_ne_true

end Catalog

end TicketTrail
