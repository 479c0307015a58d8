import Mathlib.Data.List.Induction
import TicketTrail.Proofs.Search.Boards
import TicketTrail.Search.Trail

/-!
# What a trail shows

The column changes of a trail are put together in two passes. They are collected board
by board, along the list of all boards that the ticket is or was on, and what was
collected is sorted by time. A board missing from that list would lose its changes, and
a board standing there twice would have them doubled. The sort is stable, so changes of
one time come in the order in which they were collected.

A history can hold the same change twice, so it takes places to say that each change is
shown once. `ShownInOrder` says it of changes with their places: the entries of a trail
show some arrangement of the places, by time, and for one time by a given order.

Main results:

* `pairwise_mergeSort_of_pairwise` — a stable sort keeps the order of ties;
* `Ticket.boardsEver_pairwise` — the order of the boards;
* `Ticket.byBoard_perm` — board by board, each column change is met once;
* `Catalog.trail_shows_changes` — a trail loses, invents and misattributes nothing.
-/

namespace TicketTrail

/-! ## Sorting by time -/

/-- A stable sort keeps the order of entries that tie. -/
theorem pairwise_mergeSort_of_pairwise {α : Type} (le : α → α → Bool) {R : α → α → Prop}
    {l : List α} (hTrans : ∀ a b c, le a b = true → le b c = true → le a c = true)
    (hTotal : ∀ a b, (le a b || le b a) = true) (h : l.Pairwise R) :
    (l.mergeSort le).Pairwise fun a b => le a b = true ∧ (le b a = true → R a b) := by
  have hSorted := List.pairwise_mergeSort (List.zipIdxLE_trans hTrans)
    (List.zipIdxLE_total hTotal) l.zipIdx
  have hPerm := List.mergeSort_perm l.zipIdx (List.zipIdxLE le)
  have hApart : (l.zipIdx.mergeSort (List.zipIdxLE le)).Pairwise fun a b => a.2 ≠ b.2 := by
    rw [← List.pairwise_map, ← List.nodup_iff_pairwise_ne, (hPerm.map Prod.snd).nodup_iff,
      List.zipIdx_map_snd]
    exact List.nodup_range'
  rw [← List.mergeSort_zipIdx, List.pairwise_map]
  refine (hSorted.and hApart).imp_of_mem ?_
  rintro ⟨a, i⟩ ⟨b, j⟩ ha hb ⟨hLe, hNe⟩
  obtain ⟨hi, rfl⟩ := List.getElem?_eq_some_iff.mp
    (List.mk_mem_zipIdx_iff_getElem?.mp (hPerm.mem_iff.mp ha))
  obtain ⟨hj, rfl⟩ := List.getElem?_eq_some_iff.mp
    (List.mk_mem_zipIdx_iff_getElem?.mp (hPerm.mem_iff.mp hb))
  -- entries that tie were compared by their positions in the list
  have hEntries : le l[i] l[j] = true ∧ (le l[j] l[i] = true → i ≤ j) := by
    simpa [List.zipIdxLE, imp_iff_not_or] using hLe
  refine ⟨hEntries.1, fun hBack => ?_⟩
  have hEarlier : i < j := Nat.lt_of_le_of_ne (hEntries.2 hBack) hNe
  exact List.pairwise_iff_getElem.mp h i j hi hj hEarlier

namespace Instant

/-- An instant that does not lie after another lies before it or is the same. -/
theorem isBefore_or_eq {a b : Instant} (h : a.notAfter b = true) :
    a.isBefore b = true ∨ a = b ∧ b.notAfter a = true := by
  cases hBefore : a.isBefore b with
  | true => exact Or.inl rfl
  | false =>
    have hBack : b.notAfter a = true := by rw [notAfter, hBefore, Bool.not_false]
    have hParts := notAfter_iff.mp h
    have hParts' := notAfter_iff.mp hBack
    exact Or.inr ⟨ext (by omega) (by omega), hBack⟩

end Instant

/-- The entries show the changes, each once and in order of time. Of two changes of one
time the one that is `before` the other is shown first. -/
def ShownInOrder {ε : Type} (changes : List (Change × Nat))
    (before : Change × Nat → Change × Nat → Prop) (shows : Change → ε → Prop)
    (entries : List ε) : Prop :=
  ∃ order : List (Change × Nat), order.Perm changes ∧
    order.Pairwise (fun p q => p.1.time.isBefore q.1.time = true ∨
      p.1.time = q.1.time ∧ before p q) ∧
    List.Forall₂ (fun p entry => shows p.1 entry) order entries

/-- Changes that were collected in the order of their ties are shown in order once they
are sorted by time. -/
theorem shownInOrder_mergeSort {ε : Type} {changes collected : List (Change × Nat)}
    {before : Change × Nat → Change × Nat → Prop} {shows : Change → ε → Prop}
    (tell : Change → ε) {time : ε → Instant} (hPerm : collected.Perm changes)
    (hBefore : collected.Pairwise before) (hTime : ∀ change, time (tell change) = change.time)
    (hShows : ∀ p ∈ changes, shows p.1 (tell p.1)) :
    ShownInOrder changes before shows
      ((collected.map fun p => tell p.1).mergeSort fun a b => (time a).notAfter (time b)) := by
  let le (p q : Change × Nat) : Bool := p.1.time.notAfter q.1.time
  have hTotal : ∀ p q, (le p q || le q p) = true := fun p q => by
    rw [Bool.or_eq_true]
    exact Instant.notAfter_total p.1.time q.1.time
  have hSorted := pairwise_mergeSort_of_pairwise le (fun _ _ _ => Instant.notAfter_trans) hTotal
    hBefore
  have hOrder := (List.mergeSort_perm collected le).trans hPerm
  refine ⟨collected.mergeSort le, hOrder, hSorted.imp ?_, ?_⟩
  · rintro p q ⟨hNotAfter, hTie⟩
    rcases Instant.isBefore_or_eq hNotAfter with hTimes | ⟨hTimes, hBack⟩
    · exact Or.inl hTimes
    · exact Or.inr ⟨hTimes, hTie hBack⟩
  · -- sorting the entries is sorting the changes they tell of
    have hEntries : (collected.map fun p => tell p.1).mergeSort
        (fun a b => (time a).notAfter (time b)) = (collected.mergeSort le).map fun p => tell p.1 :=
      (List.map_mergeSort fun p _ q _ => by rw [hTime, hTime]).symm
    rw [hEntries]
    exact List.forall₂_map_right_iff.mpr
      (List.forall₂_same.mpr fun p hp => hShows p (hOrder.mem_iff.mp hp))

/-! ## Changes with their places -/

/-- Only column changes have a board. -/
theorem Change.board?_eq_some_iff {change : Change} {board : String} :
    change.board? = some board ↔ change.field = .column board := by
  rw [board?]
  cases change.field with
  | status | priority => simp
  | column x => simp

namespace Ticket

/-- The changes that pass a test, each with its place in the history. -/
def placed (t : Ticket) (test : Change → Bool) : List (Change × Nat) :=
  t.history.zipIdx.filter fun p => test p.1

/-- Changes are placed as they were recorded. -/
theorem placed_pairwise (t : Ticket) (test : Change → Bool) :
    (t.placed test).Pairwise fun p q => p.2 < q.2 := by
  have hPlaces : t.history.zipIdx.Pairwise fun p q => p.2 < q.2 := by
    rw [← List.pairwise_map (R := fun i j => i < j), List.zipIdx_map_snd]
    exact List.pairwise_lt_range' 1
  exact hPlaces.filter _

/-- No place is taken twice, even by equal changes. -/
theorem placed_nodup (t : Ticket) (test : Change → Bool) : (t.placed test).Nodup := by
  refine List.nodup_iff_pairwise_ne.mpr ((t.placed_pairwise test).imp ?_)
  rintro p _ hPlace rfl
  exact Nat.lt_irrefl _ hPlace

theorem mem_placed {t : Ticket} {test : Change → Bool} {p : Change × Nat} :
    p ∈ t.placed test ↔ p ∈ t.history.zipIdx ∧ test p.1 = true :=
  List.mem_filter

/-- The changes of a field, without their places. -/
theorem changesOf_eq_placed (t : Ticket) (field : Change.Field) :
    t.changesOf field = (t.placed (·.field == field)).map fun p => p.1.toEvent := by
  have hHistory : t.history.filter (·.field == field) =
      (t.placed (·.field == field)).map Prod.fst := by
    -- the history is what its places hold
    conv_lhs => rw [← List.zipIdx_map_fst 0 t.history, List.filter_map]
    rfl
  rw [changesOf, hHistory, List.map_map]
  rfl

/-! ## The order of the boards -/

/-- One board comes before another: the boards the ticket is on by their ids, and then
the others as they first appear in its history. -/
def BoardBefore (t : Ticket) (a b : String) : Prop :=
  (a ∈ t.boards ∧ b ∈ t.boards ∧ a < b) ∨
  (a ∈ t.boards ∧ b ∉ t.boards) ∨
  (a ∉ t.boards ∧ b ∉ t.boards ∧
    t.history.findIdx (·.field == .column a) < t.history.findIdx (·.field == .column b))

/-- One column change comes before another of the same time: by their boards, and on one
board as recorded. -/
def ColumnBefore (t : Ticket) (p q : Change × Nat) : Prop :=
  ∃ a b, p.1.field = .column a ∧ q.1.field = .column b ∧
    (t.BoardBefore a b ∨ a = b ∧ p.2 < q.2)

theorem not_boardBefore_self (t : Ticket) (board : String) : ¬ t.BoardBefore board board := by
  rintro (⟨-, -, h⟩ | ⟨h, h'⟩ | ⟨-, -, h⟩)
  · exact String.lt_irrefl board h
  · exact h' h
  · exact Nat.lt_irrefl _ h

/-- No column change comes before itself; that keeps repetitions out of what is collected. -/
theorem not_columnBefore_self (t : Ticket) (p : Change × Nat) : ¬ t.ColumnBefore p p := by
  rintro ⟨a, b, ha, hb, hBefore⟩
  -- a change has one board
  obtain rfl : a = b := by
    rw [ha] at hb
    exact Change.Field.column.inj hb
  rcases hBefore with h | ⟨-, h⟩
  · exact t.not_boardBefore_self a h
  · exact Nat.lt_irrefl _ h

end Ticket

/-- Repetitions are dropped where an entry has stood before, so what is left stands in
the order of first appearance. -/
theorem eraseDups_pairwise (l : List String) :
    l.eraseDups.Pairwise fun a b => l.idxOf a < l.idxOf b := by
  induction l using List.reverseRecOn with
  | nil => exact List.Pairwise.nil
  | append_singleton l x ih =>
    have hOld : l.eraseDups.Pairwise fun a b => (l ++ [x]).idxOf a < (l ++ [x]).idxOf b := by
      refine ih.imp_of_mem fun ha hb h => ?_
      rwa [List.idxOf_append_of_mem (List.mem_eraseDups.mp ha),
        List.idxOf_append_of_mem (List.mem_eraseDups.mp hb)]
    rw [List.eraseDups_append]
    -- an entry that stood before is dropped; a new one comes after all others
    by_cases hx : x ∈ l
    · have hGone : [x].removeAll l = [] := by simp [List.removeAll, hx]
      rw [hGone]
      simpa using hOld
    · have hKept : [x].removeAll l = [x] := by simp [List.removeAll, hx]
      rw [hKept]
      refine List.pairwise_append.mpr ⟨hOld, List.pairwise_singleton _ _, ?_⟩
      intro a ha b hb
      obtain rfl := List.mem_singleton.mp hb
      have hMem := List.mem_eraseDups.mp ha
      rw [List.idxOf_append_of_mem hMem, List.idxOf_append_of_notMem hx]
      have := List.idxOf_lt_length_iff.mpr hMem
      omega

/-- The boards of the column changes appear in the order of the first change on each. -/
theorem findIdx_lt_of_idxOf_lt {history : List Change} {a b : String}
    (h : (history.filterMap Change.board?).idxOf a < (history.filterMap Change.board?).idxOf b) :
    history.findIdx (·.field == .column a) < history.findIdx (·.field == .column b) := by
  induction history with
  | nil => simp at h
  | cons change rest ih =>
    rw [List.findIdx_cons, List.findIdx_cons]
    cases hField : change.field with
    | status | priority =>
      -- a change on another axis moves both positions on by one
      rw [List.filterMap_cons_none (by rw [Change.board?, hField])] at h
      exact Nat.succ_lt_succ (ih h)
    | column x =>
      rw [List.filterMap_cons_some (Change.board?_eq_some_iff.mpr hField), List.idxOf_cons,
        List.idxOf_cons] at h
      have hBeq : ∀ board, (Change.Field.column x == .column board) = (x == board) := by
        intro board
        rw [Bool.eq_iff_iff, beq_iff_eq, beq_iff_eq, Change.Field.column.injEq]
      rw [hBeq, hBeq]
      cases hb : x == b with
      | true =>
        -- nothing comes before the board of the first change
        rw [hb] at h
        exact absurd h (Nat.not_lt_zero _)
      | false =>
        rw [hb] at h
        cases ha : x == a with
        | true => exact Nat.zero_lt_succ _
        | false =>
          rw [ha] at h
          exact Nat.succ_lt_succ (ih (Nat.lt_of_succ_lt_succ h))

namespace Ticket

theorem boards_pairwise (t : Ticket) : t.boards.Pairwise fun a b => a < b :=
  List.pairwise_map.mpr t.columns.sorted

/-- The boards stand in their order: those the ticket is on, and then the others by their
first change. -/
theorem boardsEver_pairwise (t : Ticket) : t.boardsEver.Pairwise t.BoardBefore := by
  refine (eraseDups_pairwise _).imp ?_
  intro a b h
  by_cases ha : a ∈ t.boards
  · by_cases hb : b ∈ t.boards
    · rw [List.idxOf_append_of_mem ha, List.idxOf_append_of_mem hb] at h
      -- among the boards it is on, an earlier position is a smaller id
      have hLt := List.pairwise_iff_getElem.mp t.boards_pairwise _ _
        (List.idxOf_lt_length_iff.mpr ha) (List.idxOf_lt_length_iff.mpr hb) h
      rw [List.getElem_idxOf, List.getElem_idxOf] at hLt
      exact Or.inl ⟨ha, hb, hLt⟩
    · exact Or.inr (Or.inl ⟨ha, hb⟩)
  · rw [List.idxOf_append_of_notMem ha] at h
    by_cases hb : b ∈ t.boards
    · -- a board the ticket is on stands before all others
      rw [List.idxOf_append_of_mem hb] at h
      have := List.idxOf_lt_length_iff.mpr hb
      omega
    · rw [List.idxOf_append_of_notMem hb, Nat.add_lt_add_iff_left] at h
      exact Or.inr (Or.inr ⟨ha, hb, findIdx_lt_of_idxOf_lt h⟩)

/-- No board of a column change is missing. -/
theorem mem_boardsEver {t : Ticket} {change : Change} {board : String}
    (hChange : change ∈ t.history) (hField : change.field = .column board) :
    board ∈ t.boardsEver :=
  List.mem_eraseDups.mpr (List.mem_append_right _
    (List.mem_filterMap.mpr ⟨change, hChange, Change.board?_eq_some_iff.mpr hField⟩))

/-! ## Board by board -/

/-- The column changes with their places, board by board. -/
def byBoard (t : Ticket) : List (Change × Nat) :=
  t.boardsEver.flatMap fun board => t.placed (·.field == .column board)

/-- Board by board, the column changes are collected in the order of their ties. -/
theorem byBoard_pairwise (t : Ticket) : t.byBoard.Pairwise t.ColumnBefore := by
  refine List.pairwise_flatMap.mpr ⟨?_, ?_⟩
  · intro board _
    refine (t.placed_pairwise _).imp_of_mem fun hp hq hPlace => ?_
    exact ⟨board, board, eq_of_beq (mem_placed.mp hp).2, eq_of_beq (mem_placed.mp hq).2,
      Or.inr ⟨rfl, hPlace⟩⟩
  · refine t.boardsEver_pairwise.imp fun hBefore p hp q hq => ?_
    exact ⟨_, _, eq_of_beq (mem_placed.mp hp).2, eq_of_beq (mem_placed.mp hq).2,
      Or.inl hBefore⟩

/-- Board by board, each column change is met once. -/
theorem byBoard_perm (t : Ticket) : t.byBoard.Perm (t.placed (·.board?.isSome)) := by
  have hNodup : t.byBoard.Nodup := by
    refine List.nodup_iff_pairwise_ne.mpr (t.byBoard_pairwise.imp ?_)
    rintro p _ hBefore rfl
    exact t.not_columnBefore_self p hBefore
  -- neither list has repetitions, so the same members are enough
  refine (List.perm_ext_iff_of_nodup hNodup (t.placed_nodup _)).mpr fun p => ?_
  rw [byBoard, List.mem_flatMap, mem_placed]
  constructor
  · rintro ⟨board, -, hp⟩
    obtain ⟨hHistory, hField⟩ := mem_placed.mp hp
    exact ⟨hHistory, by rw [Change.board?_eq_some_iff.mpr (eq_of_beq hField), Option.isSome_some]⟩
  · rintro ⟨hHistory, hBoard⟩
    obtain ⟨board, hBoard⟩ := Option.isSome_iff_exists.mp hBoard
    have hField := Change.board?_eq_some_iff.mp hBoard
    have hChange : p.1 ∈ t.history := by
      rw [← List.zipIdx_map_fst 0 t.history]
      exact List.mem_map_of_mem hHistory
    exact ⟨board, mem_boardsEver hChange hField, mem_placed.mpr ⟨hHistory, beq_iff_eq.mpr hField⟩⟩

end Ticket

/-! ## Entries -/

/-- The name of a column: the last of the board's own columns with the id gives it, and
an id without a column stands for itself. -/
def Snapshot.columnName (snapshot : Snapshot) (board id : String) : String :=
  (((snapshot.columnsOf board).reverse.find? (·.id == id)).map Column.name).getD id

/-- The entry shows the change, with names for its states and at its own time. -/
structure Change.ShownAs (name : String → String) (change : Change) (entry : Event) : Prop where
  prior : entry.prior = change.prior.map name
  next : entry.next = name change.next
  time : entry.time = change.time

/-- The changes of one field of a ticket are shown in order when they are sorted by time. -/
theorem Ticket.chronological_shows (t : Ticket) (field : Change.Field) (name : String → String) :
    ShownInOrder (t.placed (·.field == field)) (fun p q => p.2 < q.2) (Change.ShownAs name)
      (Event.chronological ((t.changesOf field).map (Event.rename name))) := by
  rw [changesOf_eq_placed, List.map_map]
  exact shownInOrder_mergeSort (fun change => change.toEvent.rename name) (List.Perm.refl _)
    (t.placed_pairwise _) (fun _ => rfl) fun _ _ => ⟨rfl, rfl, rfl⟩

/-- The entry shows a column change on its board: under the name of the first project
with the board's id, or else under the id, and between the board's own columns. -/
def Change.ShownOnBoard (snapshot : Snapshot) (change : Change) (entry : BoardEvent) : Prop :=
  ∃ board, change.field = .column board ∧
    entry.board = ((snapshot.projects.find? (·.id == board)).map Project.name).getD board ∧
    change.ShownAs (snapshot.columnName board) entry.toEvent

namespace Catalog

/-- The entry of a column change. -/
def boardEventOf (catalog : Catalog) (change : Change) : BoardEvent :=
  let board := change.board?.getD ""
  { change.toEvent.rename (catalog.columnName board) with board := catalog.projectName board }

/-- The entries of a board are those of its changes. -/
theorem boardEvents_eq_placed (catalog : Catalog) (t : Ticket) (board : String) :
    catalog.boardEvents t board =
      (t.placed (·.field == .column board)).map fun p => catalog.boardEventOf p.1 := by
  rw [boardEvents, columnEvents, Ticket.changesOf_eq_placed, List.map_map, List.map_map]
  refine List.map_congr_left fun p hp => ?_
  have hBoard : p.1.board?.getD "" = board := by
    rw [Change.board?_eq_some_iff.mpr (eq_of_beq (Ticket.mem_placed.mp hp).2), Option.getD_some]
  rw [boardEventOf, hBoard]
  rfl

/-- **A trail loses, invents and misattributes nothing.** Its entries are the changes of
the ticket, each place of the history shown once, in order of time. A column change is
shown on its own board and between that board's columns; of column changes of one time
those on boards the ticket is on come first, by id, then those on other boards, by the
first change on each, and those on one board stay as recorded. Changes of priority and
of status that were made at one time stay as recorded. -/
theorem trail_shows_changes (snapshot : Snapshot) (settings : Settings) (t : Ticket) :
    let catalog := ofSnapshot snapshot settings
    let trail := catalog.trail t
    ShownInOrder (t.placed (·.board?.isSome)) t.ColumnBefore (Change.ShownOnBoard snapshot)
        trail.columns ∧
      ShownInOrder (t.placed (·.field == .priority)) (fun p q => p.2 < q.2)
        (Change.ShownAs priorityName) trail.priority ∧
      ShownInOrder (t.placed (·.field == .status)) (fun p q => p.2 < q.2)
        (Change.ShownAs catalog.statusName) trail.status := by
  intro catalog trail
  have hName : ∀ board, catalog.columnName board = snapshot.columnName board :=
    columnName_eq_viewOn snapshot settings t
  refine ⟨?_, ?_, ?_⟩
  · have hColumns : t.boardsEver.flatMap (catalog.boardEvents t) =
        t.byBoard.map fun p => catalog.boardEventOf p.1 := by
      rw [Ticket.byBoard, List.map_flatMap]
      exact List.flatMap_congr fun board _ => catalog.boardEvents_eq_placed t board
    show ShownInOrder _ _ _ (BoardEvent.chronological _)
    rw [hColumns]
    refine shownInOrder_mergeSort catalog.boardEventOf t.byBoard_perm t.byBoard_pairwise
      (fun _ => rfl) ?_
    intro p hp
    obtain ⟨board, hBoard⟩ := Option.isSome_iff_exists.mp (Ticket.mem_placed.mp hp).2
    refine ⟨board, Change.board?_eq_some_iff.mp hBoard, ?_, ?_⟩
    · rw [boardEventOf, hBoard]
      rfl
    · rw [boardEventOf, hBoard, Option.getD_some, hName]
      exact ⟨rfl, rfl, rfl⟩
  · exact t.chronological_shows .priority priorityName
  · exact t.chronological_shows .status catalog.statusName

end Catalog

end TicketTrail
