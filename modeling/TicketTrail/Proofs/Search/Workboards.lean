import TicketTrail.Proofs.Pattern.Absence
import TicketTrail.Proofs.Project.Resolution
import TicketTrail.Proofs.Search.Boards
import TicketTrail.Search.Evaluation

/-!
# The boards of a tag

With a tag, columns are looked at on the projects that its names stand for. A project
is a workboard only when it has columns, but the others are looked at just the same: as
boards that rank nothing, on which no ticket has moved or is in a column. There a
condition holds when it asks for the absence of something, and such a project can be
told as a board on which a ticket was matched.

So what is told of a tag are workboards, but for what is found by its absence alone.

Main results:

* `Search.mem_candidates_iff` — with a tag, the candidates are the projects that its
  names stand for;
* `BoardView.satisfies_of_blank` — what holds where nothing is recorded;
* `Search.told_boards_of_tag` — what is told of a tag is a workboard, was recorded, or
  is matched by absence;
* `Search.tag_tells_project_without_columns` — a board that is told and has no
  columns.
-/

namespace TicketTrail

/-! ## Workboards -/

/-- Some project with the id has columns. -/
def Snapshot.IsWorkboard (snapshot : Snapshot) (board : String) : Prop :=
  ∃ p ∈ snapshot.projects, p.id = board ∧ p.columns ≠ []

/-- Workboards are the boards that have columns. -/
theorem Snapshot.columnsOf_eq_nil_iff {snapshot : Snapshot} {board : String} :
    snapshot.columnsOf board = [] ↔ ¬ snapshot.IsWorkboard board := by
  rw [columnsOf, IsWorkboard]
  cases hFind : snapshot.projects.reverse.find? fun p => !p.columns.isEmpty && p.id == board with
  | none =>
    rw [List.find?_eq_none] at hFind
    simp only [Option.map_none, Option.getD_none, true_iff]
    rintro ⟨p, hp, hId, hColumns⟩
    exact hFind p (List.mem_reverse.mpr hp) (by simp [hId, hColumns])
  | some p =>
    -- the project that is found has columns, and they are those of the board
    have hp := List.mem_reverse.mp (List.mem_of_find?_eq_some hFind)
    obtain ⟨hColumns, hId⟩ : p.columns ≠ [] ∧ p.id = board := by
      simpa using List.find?_some hFind
    simp only [Option.map_some, Option.getD_some, hColumns, false_iff, not_not]
    exact ⟨p, hp, hId, hColumns⟩

/-- The boards of a catalog are the workboards of its snapshot. -/
theorem Catalog.board?_isSome_iff {snapshot : Snapshot} {settings : Settings} {board : String} :
    ((ofSnapshot snapshot settings).board? board).isSome = true ↔ snapshot.IsWorkboard board := by
  rw [board?, List.find?_isSome, Snapshot.IsWorkboard]
  constructor
  · rintro ⟨b, hb, hId⟩
    obtain ⟨p, hp, rfl⟩ := List.mem_map.mp (List.mem_reverse.mp hb)
    obtain ⟨hMem, hColumns⟩ := List.mem_filter.mp hp
    exact ⟨p, hMem, beq_iff_eq.mp hId, by simpa using hColumns⟩
  · rintro ⟨p, hp, hId, hColumns⟩
    have hFilter : p ∈ snapshot.projects.filter (!·.columns.isEmpty) :=
      List.mem_filter.mpr ⟨hp, by simpa using hColumns⟩
    exact ⟨_, List.mem_reverse.mpr (List.mem_map_of_mem hFilter), beq_iff_eq.mpr hId⟩

/-- Where all projects have columns, every name stands for workboards. -/
theorem Snapshot.isWorkboard_of_mem_resolve {snapshot : Snapshot} {settings : Settings}
    {name : ProjectName} {board : String} (h : ∀ p ∈ snapshot.projects, p.columns ≠ [])
    (hBoard : board ∈ (Catalog.ofSnapshot snapshot settings).resolve name.raw) :
    snapshot.IsWorkboard board := by
  obtain ⟨p, hp, hId, -⟩ := Catalog.mem_resolve_iff.mp hBoard
  exact ⟨p, hp, hId, h p hp⟩

/-- The ticket is in a column of the board or has changed columns on it. -/
def Ticket.RecordedOn (t : Ticket) (board : String) : Prop :=
  (t.columns.get? board).isSome = true ∨ ∃ change ∈ t.history, change.field = .column board

/-- A view of a board on which nothing is recorded has no place and no changes. -/
theorem Ticket.viewOn_of_not_recorded {t : Ticket} {board : String} (h : ¬ t.RecordedOn board)
    (snapshot : Snapshot) : (t.viewOn snapshot board).place = none ∧
      (t.viewOn snapshot board).changes = [] := by
  rw [RecordedOn, not_or, Option.not_isSome_iff_eq_none] at h
  refine ⟨h.1, ?_⟩
  rw [viewOn, List.map_eq_nil_iff, List.filter_eq_nil_iff]
  intro change hChange hField
  exact h.2 ⟨change, hChange, by simpa using hField⟩

/-! ## Absence -/

namespace BoardView

/-- On a board on which nothing is recorded a pattern holds when all its conditions ask
for absences. -/
theorem satisfies_of_blank {v : BoardView} (hPlace : v.place = none) (hChanges : v.changes = []) :
    v.Satisfies = fun p => p.conditions.toList.all Condition.isAbsence := by
  funext p
  have hMeets : v.Meets = Condition.isAbsence := by
    funext c
    rw [Meets, moves, now, hPlace, hChanges]
    -- there is no current column either, so a condition on it holds only when negated
    exact Condition.holds_of_no_moves (fun _ => rfl) v.scale
  rw [satisfies_eq_all, hMeets]

end BoardView

/-! ## Boards of a tag -/

namespace Search

variable {snapshot : Snapshot} {settings : Settings} {tag : ProjectPatternSet}
  {resolved : ResolvedProjects}
  (hResolve : tag.resolve (Catalog.ofSnapshot snapshot settings).resolve = .ok resolved)
  (filters : Filters) (t : Ticket)

/-- The filters on the catalog of the snapshot, with the tag. -/
def tagged (snapshot : Snapshot) (settings : Settings) (resolved : ResolvedProjects)
    (filters : Filters) : Search where
  filters := filters
  catalog := Catalog.ofSnapshot snapshot settings
  tag := some resolved

include hResolve in
/-- With a tag, the candidates are the projects that its names stand for. -/
theorem mem_candidates_iff {board : String} :
    board ∈ (tagged snapshot settings resolved filters).candidates t ↔
      ∃ p ∈ snapshot.projects, p.id = board ∧ ∃ name ∈ tag.names,
        name.matchesAny p.names = true := by
  rw [ProjectPatternSet.resolve_eq, unlessFault_eq_ok_iff,
    ProjectPatternSet.unresolved?_eq_none_iff] at hResolve
  -- a tag that resolves is resolved name by name
  obtain ⟨hNames, rfl⟩ := hResolve
  show board ∈ (tag.byId _).allIds ↔ _
  rw [tag.allIds_byId _ hNames, Text.mem_sortedSet]
  simp only [List.mem_flatMap, Catalog.mem_resolve_iff]
  constructor
  · rintro ⟨name, hName, p, hp, hId, hMatch⟩
    exact ⟨p, hp, hId, name, hName, hMatch⟩
  · rintro ⟨p, hp, hId, name, hName, hMatch⟩
    exact ⟨name, hName, p, hp, hId, hMatch⟩

/-- A board is told with the first pattern that is satisfied in its view. -/
theorem mem_boardMatches_iff {set : PatternSet} {m : BoardMatch} :
    m ∈ (tagged snapshot settings resolved filters).boardMatches set t ↔
      m.board ∈ (tagged snapshot settings resolved filters).candidates t ∧
        set.patterns.toList.findIdx? (t.viewOn snapshot m.board).Satisfies = some m.pattern :=
  mem_matchBoards_iff snapshot settings t set

/-- Where nothing is recorded that is the first pattern that asks for absences only. -/
theorem mem_boardMatches_iff_of_not_recorded {set : PatternSet} {board : String} {index : Nat}
    (hBoard : board ∈ (tagged snapshot settings resolved filters).candidates t)
    (hBlank : ¬ t.RecordedOn board) :
    ⟨board, index⟩ ∈ (tagged snapshot settings resolved filters).boardMatches set t ↔
      set.patterns.toList.findIdx? (fun p => p.conditions.toList.all Condition.isAbsence) =
        some index := by
  obtain ⟨hPlace, hChanges⟩ := Ticket.viewOn_of_not_recorded hBlank snapshot
  rw [mem_boardMatches_iff, and_iff_right hBoard, BoardView.satisfies_of_blank hPlace hChanges]

/-- **What is told of a tag.** Columns are looked at on the projects that the names of
the tag stand for, with columns or without. A board that is told is one of them, and it
is a workboard unless the ticket has a record under its id or the pattern told asks for
absences only: where nothing is recorded, the first such pattern is told. A project
without columns ranks nothing. The boards named in the grounds are those told. -/
theorem told_boards_of_tag
    (hResolve : tag.resolve (Catalog.ofSnapshot snapshot settings).resolve = .ok resolved)
    (filters : Filters) (set : PatternSet) (t : Ticket) :
    let s := tagged snapshot settings resolved filters
    (∀ board, board ∈ s.candidates t ↔ ∃ p ∈ snapshot.projects, p.id = board ∧
      ∃ name ∈ tag.names, name.matchesAny p.names = true) ∧
    (∀ m ∈ s.boardMatches set t, m.board ∈ s.candidates t ∧
      (snapshot.IsWorkboard m.board ∨ t.RecordedOn m.board ∨
        ∃ p, set.patterns.toList[m.pattern]? = some p ∧
          ∀ c ∈ p.conditions.toList, c.isAbsence = true)) ∧
    (∀ board ∈ s.candidates t, ¬ t.RecordedOn board → ∀ index,
      ⟨board, index⟩ ∈ s.boardMatches set t ↔
        set.patterns.toList.findIdx? (fun p => p.conditions.toList.all Condition.isAbsence) =
          some index) ∧
    (∀ board, ¬ snapshot.IsWorkboard board → ∀ name,
      (s.catalog.boardScale board).rank? name = none) ∧
    ∀ g, s.evaluate t = some g → filters.column = some set →
      g.boards = (s.boardMatches set t).map fun m => s.catalog.projectName m.board := by
  intro s
  have hBlank : ∀ board ∈ s.candidates t, ¬ t.RecordedOn board → ∀ index,
      ⟨board, index⟩ ∈ s.boardMatches set t ↔
        set.patterns.toList.findIdx? (fun p => p.conditions.toList.all Condition.isAbsence) =
          some index :=
    fun _ hBoard hNone _ => mem_boardMatches_iff_of_not_recorded filters t hBoard hNone
  refine ⟨fun board => mem_candidates_iff hResolve filters t, ?_, hBlank, ?_, ?_⟩
  · intro m hm
    have hBoard := ((mem_boardMatches_iff filters t).mp hm).1
    refine ⟨hBoard, ?_⟩
    by_cases hRecorded : t.RecordedOn m.board
    · exact Or.inr (Or.inl hRecorded)
    · -- nothing is recorded there, so the pattern told asks for absences
      have hIndex := (hBlank m.board hBoard hRecorded m.pattern).mp hm
      obtain ⟨hBound, hAbsence, -⟩ := List.findIdx?_eq_some_iff_getElem.mp hIndex
      exact Or.inr (Or.inr ⟨_, List.getElem?_eq_getElem hBound, List.all_eq_true.mp hAbsence⟩)
  · intro board hBare name
    show ((Catalog.ofSnapshot snapshot settings).boardScale board).rank? name = none
    rw [Catalog.boardScale_eq_viewOn snapshot settings t board]
    exact BoardView.rank?_of_no_columns (Snapshot.columnsOf_eq_nil_iff.mpr hBare) name
  · intro g hFound hColumn
    have hBoards := (evaluate_eq_some_iff.mp hFound).2.1
    have hSet : s.filters.column = some set := hColumn
    rw [matchedBoards?_eq_some_iff, hSet] at hBoards
    exact hBoards.2

/-- A workboard, and a project without columns. -/
def bareSnapshot : Snapshot where
  projects := [
    { id := "P1", name := "Dev", columns := [⟨"C1", "Doing", 0⟩] },
    { id := "P2", name := "Ops" }]

/-- A ticket of both projects, on the board of the first. -/
def bareTicket : Ticket where
  id := 7
  title := "Crash"
  status := "open"
  priority := "80"
  createdAt := .earliest
  updatedAt := .earliest
  projects := ["P1", "P2"]
  columns := Dictionary.ofList [("P1", "C1")]

/-- The set with one condition. -/
def columnIs (kind : Condition.Kind) : PatternSet :=
  ⟨⟨⟨⟨⟨kind, false⟩, []⟩⟩, []⟩⟩

/-- The tag `dev,ops`. -/
def devOrOps : ProjectPatternSet :=
  ⟨⟨⟨⟨⟨"dev"⟩, []⟩⟩, [⟨⟨⟨"ops"⟩, []⟩⟩]⟩⟩

/-- A condition that asks for no absence is told of the workboard alone. -/
theorem told_boards_of_tag_doing :
    let doing := columnIs (.current "Doing")
    let s := tagged bareSnapshot {} ⟨[[["P1"]], [["P2"]]]⟩ { column := some doing }
    devOrOps.resolve (Catalog.ofSnapshot bareSnapshot {}).resolve = .ok ⟨[[["P1"]], [["P2"]]]⟩ ∧
      "P2" ∈ s.candidates bareTicket ∧
      (∀ index, ⟨"P2", index⟩ ∉ s.boardMatches doing bareTicket) ∧
      s.evaluate bareTicket = some ⟨["Dev"], none, none⟩ ∧
      ["Dev"] = (s.boardMatches doing bareTicket).map fun m => s.catalog.projectName m.board := by
  intro doing s
  have hResolve : devOrOps.resolve (Catalog.ofSnapshot bareSnapshot {}).resolve =
    .ok ⟨[[["P1"]], [["P2"]]]⟩ := rfl
  obtain ⟨hCandidates, -, hBlank, -, hGrounds⟩ :=
    told_boards_of_tag hResolve { column := some doing } doing bareTicket
  have hMember : "P2" ∈ s.candidates bareTicket :=
    (hCandidates "P2").mpr ⟨_, List.mem_cons_of_mem _ List.mem_cons_self, rfl, ⟨"ops"⟩, by decide⟩
  have hNone : ¬ bareTicket.RecordedOn "P2" := by
    rintro (hPlace | ⟨change, hChange, -⟩)
    · exact absurd hPlace (by decide)
    · cases hChange
  refine ⟨hResolve, hMember, fun index hm => ?_, rfl, hGrounds _ rfl rfl⟩
  -- to be in a column is no absence
  have hIndex := (hBlank "P2" hMember hNone index).mp hm
  cases hIndex

/-- A project without columns is told as a board on which a ticket was matched. -/
theorem tag_tells_project_without_columns :
    ¬ ∀ (snapshot : Snapshot) (settings : Settings) (tag : ProjectPatternSet)
        (resolved : ResolvedProjects) (filters : Filters) (set : PatternSet) (t : Ticket)
        (g : Grounds),
      tag.resolve (Catalog.ofSnapshot snapshot settings).resolve = .ok resolved →
      filters.column = some set →
      (tagged snapshot settings resolved filters).evaluate t = some g →
      ∀ m ∈ (tagged snapshot settings resolved filters).boardMatches set t,
        snapshot.IsWorkboard m.board := by
  intro h
  have hTold := h bareSnapshot {} ⟨⟨⟨⟨⟨"ops"⟩, []⟩⟩, []⟩⟩ ⟨[[["P2"]]]⟩
    { column := some (columnIs (.never "Doing")) } (columnIs (.never "Doing")) bareTicket
    ⟨["Ops"], none, none⟩ rfl rfl rfl ⟨"P2", 0⟩ (by decide)
  -- the only project with the id has no columns
  obtain ⟨p, hp, hId, hColumns⟩ := hTold
  revert p
  decide

end Search

end TicketTrail
