import TicketTrail.Proofs.Pattern.Matching
import TicketTrail.Search.Evaluation

/-!
# Rearranging a ticket's history

What a search says of a ticket does not depend on the order in which the changes
were recorded, on how often one was recorded or on the times. The status, the
priority and the column changes stand mixed in one list, and every filter takes
its own changes out of it and translates them; two histories with the same
changes give each filter the same moves. The first moves that witness a match do
depend on the order, but the grounds for a hit name none of them.

Main results:

* `Ticket.sameMoves_of_sameChanges` — histories with the same changes give every
  field the same moves, under every translation;
* `Search.evaluate_eq_of_sameChanges` — such tickets are found alike, on the same
  grounds.
-/

namespace TicketTrail

/-- The move with its states renamed. -/
def Move.rename (f : String → String) (m : Move) : Move :=
  { prior := m.prior.map f, next := f m.next }

/-- The histories hold the same changes, times aside, in whatever order and
however often. -/
def SameChanges (xs ys : List Change) : Prop :=
  ∀ (field : Change.Field) (m : Move),
    (∃ c ∈ xs, c.field = field ∧ c.toMove = m) ↔ ∃ c ∈ ys, c.field = field ∧ c.toMove = m

/-! ## The moves of one field -/

namespace Ticket

/-- The translated moves of a field are those of its changes, each taken out of the mixed
history by itself. -/
theorem mem_moves_of_field {t : Ticket} {field : Change.Field} {f : String → String} {m : Move} :
    m ∈ ((t.changesOf field).map (Event.rename f)).map Event.toMove ↔
      ∃ c ∈ t.history, c.field = field ∧ c.toMove.rename f = m := by
  simp only [changesOf, List.map_map, List.mem_map, List.mem_filter, beq_iff_eq, and_assoc]
  -- renaming the states and dropping the time commute
  rfl

/-- Histories with the same changes give every field the same moves. -/
theorem sameMoves_of_sameChanges {t : Ticket} {history : List Change}
    (h : SameChanges t.history history) (field : Change.Field) (f : String → String) :
    SameMoves (((t.changesOf field).map (Event.rename f)).map Event.toMove)
      (((changesOf { t with history } field).map (Event.rename f)).map Event.toMove) := by
  intro m
  rw [mem_moves_of_field, mem_moves_of_field]
  constructor
  · rintro ⟨c, hc, hField, rfl⟩
    obtain ⟨d, hd, hEq⟩ := (h field c.toMove).mp ⟨c, hc, hField, rfl⟩
    exact ⟨d, hd, hEq.1, by rw [hEq.2]⟩
  · rintro ⟨c, hc, hField, rfl⟩
    obtain ⟨d, hd, hEq⟩ := (h field c.toMove).mpr ⟨c, hc, hField, rfl⟩
    exact ⟨d, hd, hEq.1, by rw [hEq.2]⟩

end Ticket

/-! ## The filters -/

theorem BoardHistory.match?_eq_map_index (set : PatternSet) (history : BoardHistory) :
    history.match? set =
      ((set.findMatch? history.scale history.moves history.current).map PatternMatch.index).map
        (BoardMatch.mk history.board) := by
  rw [BoardHistory.match?, Option.map_map]
  rfl

/-- On each board the same pattern of a set matches, though other moves may witness it. -/
theorem Catalog.match?_eq_of_sameChanges (catalog : Catalog) {t : Ticket} {history : List Change}
    (h : SameChanges t.history history) (set : PatternSet) (board : String) :
    (catalog.boardHistory { t with history } board).match? set =
      (catalog.boardHistory t board).match? set := by
  -- the scale, the current column and the renaming are those of the board
  have hMoves : SameMoves (catalog.boardHistory t board).moves
      (catalog.boardHistory { t with history } board).moves :=
    Ticket.sameMoves_of_sameChanges h (.column board) (catalog.columnName board)
  rw [BoardHistory.match?_eq_map_index, BoardHistory.match?_eq_map_index,
    PatternSet.index_eq_of_sameMoves hMoves]
  rfl

namespace Search

/-- What is told of a match is the text of its pattern, so equal patterns are told alike. -/
theorem matchedText?_congr {patterns : Option PatternSet}
    {f g : PatternSet → Option PatternMatch}
    (h : ∀ set, (f set).map PatternMatch.pattern = (g set).map PatternMatch.pattern) :
    matchedText? patterns f = matchedText? patterns g := by
  cases patterns with
  | none => rfl
  | some set =>
    -- only the text of the pattern is told, so the pattern is all that counts
    have hText : ∀ found : Option PatternMatch, (found.map fun m => some m.pattern.text) =
        (found.map PatternMatch.pattern).map fun p => some p.text := fun found => by
      rw [Option.map_map]
      rfl
    rw [matchedText?, matchedText?, hText, hText, h]

/-- **What a search says of a ticket depends on its history only as a set of
changes.** -/
theorem evaluate_eq_of_sameChanges (s : Search) (t : Ticket) (history : List Change)
    (h : SameChanges t.history history) :
    s.evaluate { t with history } = s.evaluate t := by
  have hMoves := Ticket.sameMoves_of_sameChanges h
  -- the candidate boards are the same list; only the histories on them differ
  have hBoards : ∀ set, s.boardMatches set { t with history } = s.boardMatches set t := by
    intro set
    show matchBoards set ((s.candidates t).map (s.catalog.boardHistory { t with history })) =
      matchBoards set ((s.candidates t).map (s.catalog.boardHistory t))
    have hBoard : BoardHistory.match? set ∘ s.catalog.boardHistory { t with history } =
        BoardHistory.match? set ∘ s.catalog.boardHistory t :=
      funext fun board => s.catalog.match?_eq_of_sameChanges h set board
    rw [matchBoards, matchBoards, List.filterMap_map, List.filterMap_map, hBoard]
  have hColumn : s.matchedBoards? { t with history } = s.matchedBoards? t := by
    simp only [matchedBoards?, hBoards]
  -- of a priority or a status match the text of its pattern is told, and nothing else
  have hPriority : matchedText? s.filters.priority (fun set =>
      s.priorityMatch? set { t with history }) =
        matchedText? s.filters.priority fun set => s.priorityMatch? set t :=
    matchedText?_congr fun set =>
      (PatternSet.pattern_eq_of_sameMoves (hMoves .priority priorityName) _ _ set).symm
  have hStatus : matchedText? s.filters.status (fun set =>
      s.statusMatch? set { t with history }) =
        matchedText? s.filters.status fun set => s.statusMatch? set t :=
    matchedText?_congr fun set =>
      (PatternSet.pattern_eq_of_sameMoves (hMoves .status s.catalog.statusName) _ _ set).symm
  rw [evaluate, evaluate, hColumn, hPriority, hStatus]
  -- the query, the dates and the tag do not read the history
  rfl

/-- A search for raised tickets that have left the column `Doing` onwards. -/
def sampleSearch : Search where
  filters :=
    { column := some ⟨⟨⟨⟨.left "Doing" (some .forward), false⟩, []⟩⟩, []⟩
      priority := some ⟨⟨⟨⟨.moved .raised, false⟩, []⟩⟩, []⟩ }
  catalog := Catalog.ofSnapshot
    { projects := [{ id := "P1", name := "Dev", columns := [{ id := "C1", name := "Doing" },
        { id := "C2", name := "Done", sequence := 1 }] }] } {}
  tag := none

/-- Moved to the column `Done` on the board of the sample. -/
def sampleMove : Change :=
  { prior := some "C1", next := "C2", time := .earliest, field := .column "P1" }

/-- Raised from `Normal` to `High`. -/
def sampleRaise (time : Instant) : Change :=
  { prior := some "50", next := "80", time, field := .priority }

/-- A ticket with both changes. -/
def sampleTicket : Ticket where
  id := 7
  title := "Crash"
  status := "open"
  priority := "80"
  createdAt := .earliest
  updatedAt := .earliest
  columns := Dictionary.ofList [("P1", "C2")]
  history := [sampleMove, sampleRaise .earliest]

/-- The raise comes first, at another time, and once more at the end. -/
def sampleRearranged : List Change :=
  [sampleRaise ((Instant.ofParts? 0 0).getD .earliest), sampleMove, sampleRaise .earliest]

/-- Two changes on two axes, told in another order, at other times and one of them twice. -/
theorem evaluate_eq_of_sameChanges_sample :
    SameChanges sampleTicket.history sampleRearranged ∧
      sampleSearch.evaluate { sampleTicket with history := sampleRearranged } =
        some ⟨["Dev"], some "raised", none⟩ := by
  have hSame : SameChanges sampleTicket.history sampleRearranged := by
    intro field m
    simp only [sampleTicket, sampleRearranged, List.mem_cons, List.not_mem_nil, or_false,
      exists_eq_or_imp, exists_eq_left]
    constructor
    · rintro (hMove | hRaise)
      · exact Or.inr (Or.inl hMove)
      · exact Or.inl hRaise
    · rintro (hRaise | hMove | hRaise)
      · exact Or.inr hRaise
      · exact Or.inl hMove
      · exact Or.inr hRaise
  refine ⟨hSame, ?_⟩
  rw [evaluate_eq_of_sameChanges _ _ _ hSame]
  rfl

end Search

end TicketTrail
