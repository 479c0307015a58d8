import Mathlib.Data.List.Count
import TicketTrail.Proofs.Search.UnknownColumns

/-!
# Column ids that are told to be unknown

A search warns of column ids that are on no board of the snapshot, and it gathers them from the
histories of the tickets it found. An id is looked up on the board for which it was recorded, and on
no other. So an id that no project has is always gathered, and as often as it was recorded; but an
id of one board that was recorded for another is gathered as well, and of that one the warning is
not true.

Main results:

* `Catalog.unknownColumns_eq_filter` — which of the recorded ids are gathered;
* `Catalog.unknown_columns_by_board` — what the warning is true of;
* `Catalog.unknown_column_of_other_board` — a column that is on a board and is said to be on none.
-/

namespace TicketTrail

/-- The column ids in a ticket's history, each with the board it was recorded for. -/
def Ticket.recordedColumns (t : Ticket) : List (String × String) :=
  t.history.flatMap fun change =>
    match change.field with
    | .column board => change.endpoints.map fun id => (board, id)
    | _ => []

namespace Snapshot

/-- Some project of the snapshot has a column with the id. -/
def HasColumn (snapshot : Snapshot) (id : String) : Prop :=
  ∃ p ∈ snapshot.projects, ∃ c ∈ p.columns, c.id = id

/-- The board itself has a column with the id. -/
def BoardHasColumn (snapshot : Snapshot) (board id : String) : Prop :=
  ∃ c ∈ snapshot.columnsOf board, c.id = id

instance (snapshot : Snapshot) (id : String) : Decidable (snapshot.HasColumn id) :=
  inferInstanceAs (Decidable (∃ p ∈ snapshot.projects, ∃ c ∈ p.columns, c.id = id))

instance (snapshot : Snapshot) (board id : String) : Decidable (snapshot.BoardHasColumn board id) :=
  inferInstanceAs (Decidable (∃ c ∈ snapshot.columnsOf board, c.id = id))

/-- A column of a board is a column of the snapshot; a project without columns is no board
and has none to give. -/
theorem BoardHasColumn.hasColumn {snapshot : Snapshot} {board id : String}
    (h : snapshot.BoardHasColumn board id) : snapshot.HasColumn id := by
  obtain ⟨c, hc, hId⟩ := h
  rw [columnsOf] at hc
  cases hBoard : snapshot.projects.reverse.find? fun p => !p.columns.isEmpty && p.id == board with
  | none =>
    rw [hBoard] at hc
    simp at hc
  | some p =>
    rw [hBoard] at hc
    exact ⟨p, List.mem_reverse.mp (List.mem_of_find?_eq_some hBoard), c, hc, hId⟩

end Snapshot

namespace Catalog

variable (snapshot : Snapshot) (settings : Settings)

/-- The catalog knows the columns of a board by the board's own ids. -/
theorem knowsColumn_eq_decide (board id : String) :
    (ofSnapshot snapshot settings).knowsColumn board id =
      decide (snapshot.BoardHasColumn board id) := by
  have hColumn : ∀ columns : List Column,
      (columns.reverse.find? (·.id == id)).isSome = true ↔ ∃ c ∈ columns, c.id = id := by
    intro columns
    simp [List.find?_isSome]
  rw [Bool.eq_iff_iff, decide_eq_true_iff, knowsColumn, board?_ofSnapshot,
    Snapshot.BoardHasColumn, Snapshot.columnsOf]
  cases snapshot.projects.reverse.find? fun p => !p.columns.isEmpty && p.id == board with
  | none => simp
  | some p => exact hColumn p.columns

/-- The ids that are gathered are those that their own board does not have, in the order in which
they were recorded and as often. -/
theorem unknownColumns_eq_filter (t : Ticket) :
    (ofSnapshot snapshot settings).unknownColumns t =
      (t.recordedColumns.filter fun (board, id) => ¬ snapshot.BoardHasColumn board id).map
        Prod.snd := by
  rw [unknownColumns, Ticket.recordedColumns, List.filter_flatMap, List.map_flatMap]
  congr 1
  funext change
  rw [unknownColumnsOf]
  -- only a column change has a board to look the ids up on
  cases change.field with
  | status => rfl
  | priority => rfl
  | column board =>
    rw [List.filter_map, List.map_map]
    simp only [knowsColumn_eq_decide, decide_not]
    exact (List.map_id _).symm

/-- An id is gathered exactly when it was recorded for some board that does not have it. -/
theorem mem_unknownColumns_iff {t : Ticket} {id : String} :
    id ∈ (ofSnapshot snapshot settings).unknownColumns t ↔
      ∃ board, (board, id) ∈ t.recordedColumns ∧ ¬ snapshot.BoardHasColumn board id := by
  rw [unknownColumns_eq_filter, List.mem_map]
  constructor
  · rintro ⟨⟨board, _⟩, hMem, rfl⟩
    obtain ⟨hRecorded, hOwn⟩ := List.mem_filter.mp hMem
    exact ⟨board, hRecorded, of_decide_eq_true hOwn⟩
  · rintro ⟨board, hRecorded, hOwn⟩
    exact ⟨(board, id), List.mem_filter.mpr ⟨hRecorded, decide_eq_true hOwn⟩, rfl⟩

/-- An id that is no column of the snapshot is gathered as often as it was recorded. -/
theorem count_unknownColumns {t : Ticket} {id : String} (h : ¬ snapshot.HasColumn id) :
    ((ofSnapshot snapshot settings).unknownColumns t).count id =
      (t.recordedColumns.map Prod.snd).count id := by
  rw [unknownColumns_eq_filter, List.count_eq_countP, List.count_eq_countP, List.countP_map,
    List.countP_map, List.countP_filter]
  refine List.countP_congr fun (board, other) _ => ?_
  -- no board has a column that the snapshot does not have, so nothing is filtered out
  have hOwn : other = id → ¬ snapshot.BoardHasColumn board other := by
    rintro rfl hOwn
    exact h hOwn.hasColumn
  simpa using hOwn

/-- **The warning is true of ids that were recorded for their own board.** Of the ids in a
ticket's column changes those are gathered that the board of the change does not have. Among
them is every id that is on no board of the snapshot, as often as it was recorded; and there
are no others exactly when each recorded id that some project has is one of the columns of
the board for which it was recorded. -/
theorem unknown_columns_by_board (t : Ticket) :
    let unknown := (ofSnapshot snapshot settings).unknownColumns t
    unknown = (t.recordedColumns.filter fun (board, id) =>
        ¬ snapshot.BoardHasColumn board id).map Prod.snd ∧
      (∀ id, ¬ snapshot.HasColumn id →
        unknown.count id = (t.recordedColumns.map Prod.snd).count id) ∧
      ((∀ id ∈ unknown, ¬ snapshot.HasColumn id) ↔
        ∀ board id, (board, id) ∈ t.recordedColumns → snapshot.HasColumn id →
          snapshot.BoardHasColumn board id) := by
  intro unknown
  refine ⟨unknownColumns_eq_filter snapshot settings t, ?_, ?_⟩
  · intro id hNowhere
    exact count_unknownColumns snapshot settings hNowhere
  constructor
  · intro hTrue board id hRecorded hSome
    -- an id gathered although some project has it would make the warning false
    by_contra hOwn
    have hMem : id ∈ unknown :=
      (mem_unknownColumns_iff snapshot settings).mpr ⟨board, hRecorded, hOwn⟩
    exact hTrue id hMem hSome
  · intro hHome id hMem hSome
    obtain ⟨board, hRecorded, hOwn⟩ := (mem_unknownColumns_iff snapshot settings).mp hMem
    exact hOwn (hHome board id hRecorded hSome)

/-- A board with two columns and one with a third. -/
def apartSnapshot : Snapshot where
  projects := [
    { id := "P1", name := "Dev", columns := [⟨"C1", "Doing", 0⟩, ⟨"C2", "Done", 1⟩] },
    { id := "P2", name := "Ops", columns := [⟨"C3", "Inbox", 0⟩] }]

/-- A ticket that went from a column to the last one of the board `P1`, twice. -/
def finishedTwice (id : String) : Ticket :=
  { strayTicket with history := [finishing id, finishing id] }

/-- An id that no project has is gathered twice where it was recorded twice, and the
warning is true of all that is gathered. -/
theorem unknown_columns_by_board_gone :
    let unknown := (ofSnapshot apartSnapshot {}).unknownColumns (finishedTwice "C9")
    ¬ apartSnapshot.HasColumn "C9" ∧ unknown.count "C9" = 2 ∧
      ∀ id ∈ unknown, ¬ apartSnapshot.HasColumn id := by
  intro unknown
  have hNowhere : ¬ apartSnapshot.HasColumn "C9" := by decide
  have hHome : ∀ entry ∈ (finishedTwice "C9").recordedColumns,
      apartSnapshot.HasColumn entry.2 → apartSnapshot.BoardHasColumn entry.1 entry.2 := by decide
  obtain ⟨-, hCount, hTrue⟩ := unknown_columns_by_board apartSnapshot {} (finishedTwice "C9")
  exact ⟨hNowhere, hCount "C9" hNowhere, hTrue.mpr fun board id => hHome (board, id)⟩

/-- A column of one board that was recorded for another one is said to be on no board. -/
theorem unknown_column_of_other_board :
    ¬ ∀ (snapshot : Snapshot) (settings : Settings) (t : Ticket),
      let unknown := (ofSnapshot snapshot settings).unknownColumns t
      (∀ id ∈ unknown, ¬ snapshot.HasColumn id) ∧
        ∀ board id, (board, id) ∈ t.recordedColumns → ¬ snapshot.HasColumn id → id ∈ unknown := by
  intro h
  obtain ⟨hTrue, -⟩ := h apartSnapshot {} (finishedTwice "C3")
  -- the change was recorded for `P1`, which does not have the column of `P2`
  have hMem : "C3" ∈ (ofSnapshot apartSnapshot {}).unknownColumns (finishedTwice "C3") := by decide
  have hInbox : apartSnapshot.HasColumn "C3" := by decide
  exact hTrue "C3" hMem hInbox

end Catalog

end TicketTrail
