import TicketTrail.Proofs.Pattern.Operators
import TicketTrail.Search.Evaluation

/-!
# The operators on search results

A search is fixed but for the patterns of one axis. The other filters pass or
fail a ticket whatever these patterns are, so what the search says of the ticket
is what it says without them, with their own verdict put in
(`Search.evaluate_withPatterns`). On that, the operators of the pattern text are
the boolean operators on what is found.

For columns only *or* carries over. Each board is matched by itself, so two
patterns can each match on a board of their own while no board matches both.

Main results:

* `Search.evaluate_withPatterns` — the verdict of one axis, apart from the other
  filters;
* `Search.evaluate_union`, `Search.boardsOn_union` — what a union reports;
* `Search.text_operators` — `,`, `+` and `not:` in the text of a pattern.
-/

namespace TicketTrail

/-! ## One axis apart -/

/-- The filters with the given patterns of an axis in place of their own. -/
def Filters.withPatterns (f : Filters) (axis : OrderedAxis) (set : Option PatternSet) : Filters :=
  match axis with
  | .column => { f with column := set }
  | .priority => { f with priority := set }
  | .status => { f with status := set }

/-- The grounds with the part for an axis taken from the others given. -/
def Grounds.replace (g : Grounds) (axis : OrderedAxis) (own : Grounds) : Grounds :=
  match axis with
  | .column => { g with boards := own.boards }
  | .priority => { g with priority := own.priority }
  | .status => { g with status := own.status }

/-- The parts of the grounds put together, unless one of them is missing. -/
def Grounds.ofParts? (boards : Option (List String)) (priority status : Option (Option String)) :
    Option Grounds :=
  boards.bind fun boards => priority.bind fun priority => status.bind fun status =>
    some ⟨boards, priority, status⟩

namespace Grounds

variable (boards : Option (List String)) (priority status : Option (Option String))

/-- The boards can be put in last: the other parts are put together as if none were told. -/
theorem ofParts?_boards :
    ofParts? boards priority status =
      (ofParts? (some []) priority status).bind fun g =>
        boards.map fun names => { g with boards := names } := by
  cases priority <;> cases status <;> cases boards <;> rfl

theorem ofParts?_priority :
    ofParts? boards priority status =
      (ofParts? boards (some none) status).bind fun g =>
        priority.map fun text => { g with priority := text } := by
  cases boards <;> cases status <;> cases priority <;> rfl

theorem ofParts?_status :
    ofParts? boards priority status =
      (ofParts? boards priority (some none)).bind fun g =>
        status.map fun text => { g with status := text } := by
  cases boards <;> cases priority <;> cases status <;> rfl

end Grounds

namespace Search

/-- The search with the given patterns of an axis in place of its own. -/
def withPatterns (s : Search) (axis : OrderedAxis) (set : Option PatternSet) : Search :=
  { s with filters := s.filters.withPatterns axis set }

/-- The search with the given patterns of an axis finds the ticket. -/
def Finds (s : Search) (axis : OrderedAxis) (set : PatternSet) (t : Ticket) : Prop :=
  ((s.withPatterns axis (some set)).evaluate t).isSome = true

/-- The ticket passes every filter but the patterns of the axis. -/
def PassesApart (s : Search) (axis : OrderedAxis) (t : Ticket) : Prop :=
  ((s.withPatterns axis none).evaluate t).isSome = true

/-- The boards on which a set of column patterns matches, by id. -/
def boardsOn (s : Search) (set : PatternSet) (t : Ticket) : List String :=
  (s.boardMatches set t).map BoardMatch.board

/-- What the patterns of one axis say of the ticket by themselves. -/
def verdict? (s : Search) (axis : OrderedAxis) (set : PatternSet) (t : Ticket) : Option Grounds :=
  match axis with
  | .column =>
    match s.boardMatches set t with
    | [] => none
    | found => some ⟨found.map fun m => s.catalog.projectName m.board, none, none⟩
  | .priority => (s.priorityMatch? set t).map fun found => ⟨[], some found.pattern.text, none⟩
  | .status => (s.statusMatch? set t).map fun found => ⟨[], none, some found.pattern.text⟩

/-- What a search says of a ticket, as parts that are there or missing. -/
theorem evaluate_eq_ofParts? (s : Search) (t : Ticket) :
    s.evaluate t =
      if s.passesQuery t && s.passesCreated t && s.passesUpdated t && s.passesTag t then
        Grounds.ofParts? (s.matchedBoards? t)
          (matchedText? s.filters.priority fun set => s.priorityMatch? set t)
          (matchedText? s.filters.status fun set => s.statusMatch? set t)
      else none := rfl

section Verdicts

variable (s : Search) (set : PatternSet) (t : Ticket)

/-- The verdict on columns is the part that the search puts in for them. -/
theorem matchedBoards?_withPatterns :
    (s.withPatterns .column (some set)).matchedBoards? t =
      (s.verdict? .column set t).map Grounds.boards := by
  show (match s.boardMatches set t with
    | [] => none
    | found => some (found.map fun m : BoardMatch => s.catalog.projectName m.board)) = _
  unfold verdict?
  cases s.boardMatches set t <;> rfl

theorem matchedText?_priority :
    matchedText? (some set) (fun set => s.priorityMatch? set t) =
      (s.verdict? .priority set t).map Grounds.priority := by
  rw [matchedText?, verdict?, Option.map_map]
  rfl

theorem matchedText?_status :
    matchedText? (some set) (fun set => s.statusMatch? set t) =
      (s.verdict? .status set t).map Grounds.status := by
  rw [matchedText?, verdict?, Option.map_map]
  rfl

end Verdicts

/-- **One axis apart.** The patterns of an axis are judged by themselves, and their
verdict is put into what the search says without them. -/
theorem evaluate_withPatterns (s : Search) (axis : OrderedAxis) (set : PatternSet) (t : Ticket) :
    (s.withPatterns axis (some set)).evaluate t =
      ((s.withPatterns axis none).evaluate t).bind fun g =>
        (s.verdict? axis set t).map (g.replace axis) := by
  have hPasses : ∀ x, ((s.withPatterns axis x).passesQuery t &&
      (s.withPatterns axis x).passesCreated t && (s.withPatterns axis x).passesUpdated t &&
        (s.withPatterns axis x).passesTag t) =
      (s.passesQuery t && s.passesCreated t && s.passesUpdated t && s.passesTag t) := by
    intro x
    cases axis <;> rfl
  -- the parts of the other axes are the same terms on both sides; the part of this
  -- one is there without patterns too, as the neutral part that `ofParts?_*` puts in
  rw [evaluate_eq_ofParts?, evaluate_eq_ofParts?, hPasses, hPasses]
  split
  · cases axis with
    | column =>
      rw [matchedBoards?_withPatterns, Grounds.ofParts?_boards]
      simp only [Option.map_map]
      rfl
    | priority =>
      show Grounds.ofParts? (s.matchedBoards? t)
        (matchedText? (some set) fun set => s.priorityMatch? set t) _ = _
      rw [matchedText?_priority, Grounds.ofParts?_priority]
      simp only [Option.map_map]
      rfl
    | status =>
      show Grounds.ofParts? (s.matchedBoards? t) _
        (matchedText? (some set) fun set => s.statusMatch? set t) = _
      rw [matchedText?_status, Grounds.ofParts?_status]
      simp only [Option.map_map]
      rfl
  · rfl

/-- A ticket is found when it passes apart from the patterns and these match. -/
theorem finds_iff {s : Search} {axis : OrderedAxis} {set : PatternSet} {t : Ticket} :
    s.Finds axis set t ↔ s.PassesApart axis t ∧ (s.verdict? axis set t).isSome = true := by
  rw [Finds, PassesApart, evaluate_withPatterns]
  cases (s.withPatterns axis none).evaluate t with
  | none => simp
  | some g => simp

/-! ## Priorities and statuses -/

/-- Away from the columns there is one history, and the verdict tells the first
pattern that matches it. -/
theorem exists_verdict?_eq {s : Search} {axis : OrderedAxis} (hAxis : axis ≠ .column)
    (t : Ticket) :
    ∃ (scale : Scale) (moves : List Move) (now : Option String) (tell : Pattern → Grounds),
      ∀ set, s.verdict? axis set t =
        ((set.findMatch? scale moves now).map PatternMatch.pattern).map tell := by
  cases axis with
  | column => exact absurd rfl hAxis
  | priority =>
    refine ⟨s.catalog.priority, (Catalog.priorityEvents t).map Event.toMove,
      some (priorityName t.priority), fun p => ⟨[], some p.text, none⟩, fun set => ?_⟩
    rw [verdict?, priorityMatch?, Option.map_map]
    rfl
  | status =>
    refine ⟨s.catalog.status, (s.catalog.statusEvents t).map Event.toMove,
      some (s.catalog.statusName t.status), fun p => ⟨[], none, some p.text⟩, fun set => ?_⟩
    rw [verdict?, statusMatch?, Option.map_map]
    rfl

/-- Whether that verdict is favourable is what the set says of the one history. -/
theorem exists_holds_eq {s : Search} {axis : OrderedAxis} (hAxis : axis ≠ .column) (t : Ticket) :
    ∃ (scale : Scale) (moves : List Move) (now : Option String),
      ∀ set, (s.verdict? axis set t).isSome = set.holds scale moves now := by
  obtain ⟨scale, moves, now, tell, hVerdict⟩ := exists_verdict?_eq (s := s) hAxis t
  refine ⟨scale, moves, now, fun set => ?_⟩
  rw [hVerdict, Option.isSome_map, Option.isSome_map]
  rfl

theorem verdict?_union {s : Search} {axis : OrderedAxis} (hAxis : axis ≠ .column)
    (p q : PatternSet) (t : Ticket) :
    s.verdict? axis (p.union q) t = (s.verdict? axis p t).or (s.verdict? axis q t) := by
  obtain ⟨scale, moves, now, tell, hVerdict⟩ := exists_verdict?_eq (s := s) hAxis t
  rw [hVerdict, hVerdict, hVerdict, PatternSet.pattern_union, Option.map_or]

/-- Of two sets together the search reports what it reports for the first, if that
finds the ticket, and else what it reports for the second. -/
theorem evaluate_union {s : Search} {axis : OrderedAxis} (hAxis : axis ≠ .column)
    (p q : PatternSet) (t : Ticket) :
    (s.withPatterns axis (some (p.union q))).evaluate t =
      ((s.withPatterns axis (some p)).evaluate t).or
        ((s.withPatterns axis (some q)).evaluate t) := by
  rw [evaluate_withPatterns, evaluate_withPatterns, evaluate_withPatterns, verdict?_union hAxis]
  cases (s.withPatterns axis none).evaluate t with
  | none => rfl
  | some g => exact Option.map_or

/-- Both patterns joined find the ticket when each of them does. -/
theorem finds_both {s : Search} {axis : OrderedAxis} (hAxis : axis ≠ .column) (a b : Pattern)
    (t : Ticket) :
    s.Finds axis (.ofPattern (a.both b)) t ↔
      s.Finds axis (.ofPattern a) t ∧ s.Finds axis (.ofPattern b) t := by
  obtain ⟨scale, moves, now, hHolds⟩ := exists_holds_eq (s := s) hAxis t
  rw [finds_iff, finds_iff, finds_iff, hHolds, hHolds, hHolds, PatternSet.holds_both,
    Bool.and_eq_true]
  -- passing apart from the patterns is asked once on the left and twice on the right
  tauto

/-- A negated condition finds, of the tickets that pass apart from it, those that the
condition does not. -/
theorem finds_flipped {s : Search} {axis : OrderedAxis} (hAxis : axis ≠ .column) (c : Condition)
    (t : Ticket) :
    s.Finds axis (.ofPattern (.ofCondition c.negate)) t ↔
      s.PassesApart axis t ∧ ¬ s.Finds axis (.ofPattern (.ofCondition c)) t := by
  obtain ⟨scale, moves, now, hHolds⟩ := exists_holds_eq (s := s) hAxis t
  rw [finds_iff, finds_iff, hHolds, hHolds, PatternSet.holds_flipped, Bool.not_eq_true',
    ← Bool.not_eq_true]
  -- a ticket that fails another filter is found by neither, hence the first conjunct
  tauto

/-! ## Columns -/

/-- The patterns match on the board, by itself. -/
def MatchesOn (s : Search) (set : PatternSet) (t : Ticket) (board : String) : Bool :=
  let history := s.catalog.boardHistory t board
  set.holds history.scale history.moves history.current

/-- The boards told are the candidates on which the patterns match, in order. -/
theorem boardsOn_eq_filter (s : Search) (set : PatternSet) (t : Ticket) :
    s.boardsOn set t = (s.candidates t).filter (s.MatchesOn set t) := by
  -- a board is told under its own id or not at all
  have hTold : (fun board => ((s.catalog.boardHistory t board).match? set).map BoardMatch.board) =
      Option.guard (s.MatchesOn set t) := by
    funext board
    rw [BoardHistory.match?, Option.map_map, Option.guard, MatchesOn, PatternSet.holds]
    cases PatternSet.findMatch? _ _ _ set <;> rfl
  rw [boardsOn, boardMatches, matchBoards, Catalog.boardHistories, List.filterMap_map,
    List.map_filterMap, ← List.filterMap_eq_filter, ← hTold]
  rfl

/-- A board is told when it is a candidate and the patterns match there. -/
theorem mem_boardsOn {s : Search} {set : PatternSet} {t : Ticket} {board : String} :
    board ∈ s.boardsOn set t ↔ board ∈ s.candidates t ∧ s.MatchesOn set t board = true := by
  rw [boardsOn_eq_filter, List.mem_filter]

/-- Of two sets together, the boards of either are told, in the order of the
candidates. -/
theorem boardsOn_union (s : Search) (p q : PatternSet) (t : Ticket) :
    s.boardsOn (p.union q) t =
      (s.candidates t).filter fun board => board ∈ s.boardsOn p t ∨ board ∈ s.boardsOn q t := by
  rw [boardsOn_eq_filter]
  -- on a candidate board, being told is the same as being matched
  refine List.filter_congr fun board hBoard => ?_
  rw [Bool.eq_iff_iff, decide_eq_true_eq, mem_boardsOn, mem_boardsOn, MatchesOn,
    PatternSet.holds_union, Bool.or_eq_true]
  simp only [hBoard, true_and]
  rfl

/-- Columns find a ticket when they match on some board. -/
theorem verdict?_column_isSome {s : Search} {set : PatternSet} {t : Ticket} :
    (s.verdict? .column set t).isSome = true ↔ ∃ board, board ∈ s.boardsOn set t := by
  rw [boardsOn]
  unfold verdict?
  -- the verdict is there when the list of boards is not empty
  cases s.boardMatches set t with
  | nil => simp
  | cons found rest => exact ⟨fun _ => ⟨found.board, by simp⟩, fun _ => rfl⟩

/-- The boards told by a search are those its patterns match on, by name. -/
theorem boards_of_evaluate {s : Search} {set : PatternSet} {t : Ticket} {g : Grounds}
    (h : (s.withPatterns .column (some set)).evaluate t = some g) :
    g.boards = (s.boardsOn set t).map s.catalog.projectName := by
  obtain ⟨-, hBoards, -⟩ := evaluate_eq_some_iff.mp h
  obtain ⟨-, hNames⟩ := matchedBoards?_eq_some_iff.mp hBoards
  rw [hNames, boardsOn, List.map_map]
  rfl

/-- Either set finding the ticket is the union finding it, on every axis. -/
theorem finds_union {s : Search} {axis : OrderedAxis} (p q : PatternSet) (t : Ticket) :
    s.Finds axis (p.union q) t ↔ s.Finds axis p t ∨ s.Finds axis q t := by
  rw [finds_iff, finds_iff, finds_iff, ← and_or_left]
  refine and_congr_right fun _ => ?_
  by_cases hAxis : axis = .column
  · -- there is a board of the union exactly when one of the two has a board
    subst hAxis
    rw [verdict?_column_isSome, verdict?_column_isSome, verdict?_column_isSome, ← exists_or]
    refine exists_congr fun board => ?_
    rw [boardsOn_union, List.mem_filter, decide_eq_true_eq, and_iff_right_iff_imp]
    rintro (h | h)
    · exact (mem_boardsOn.mp h).1
    · exact (mem_boardsOn.mp h).1
  · rw [verdict?_union hAxis, Option.isSome_or, Bool.or_eq_true]

/-! ## The text of a pattern -/

/-- **The operators of the pattern text are the boolean operators on results.** The
comma is *or* on every axis; what is told is told by the first text that finds
the ticket, or for columns by the boards of either. The plus is *and* and `not:`
is *not* on priorities and statuses, where there is one history to look at. -/
theorem text_operators (s : Search) :
    (∀ axis p q P Q, PatternSet.parse axis p = .ok P → PatternSet.parse axis q = .ok Q →
      ∃ U, PatternSet.parse axis (p ++ "," ++ q) = .ok U ∧ ∀ t,
        (s.Finds axis U t ↔ s.Finds axis P t ∨ s.Finds axis Q t) ∧
        (axis ≠ .column → (s.withPatterns axis (some U)).evaluate t =
          ((s.withPatterns axis (some P)).evaluate t).or
            ((s.withPatterns axis (some Q)).evaluate t)) ∧
        (axis = .column →
          s.boardsOn U t = (s.candidates t).filter (fun board =>
            board ∈ s.boardsOn P t ∨ board ∈ s.boardsOn Q t) ∧
          ∀ X ∈ [P, Q, U], ∀ g, (s.withPatterns axis (some X)).evaluate t = some g →
            g.boards = (s.boardsOn X t).map s.catalog.projectName)) ∧
    (∀ axis p q P Q, axis ≠ .column → PatternSet.parse axis p = .ok P →
      PatternSet.parse axis q = .ok Q → ',' ∉ p.toList → ',' ∉ q.toList →
      ∃ B, PatternSet.parse axis (p ++ "+" ++ q) = .ok B ∧
        ∀ t, s.Finds axis B t ↔ s.Finds axis P t ∧ s.Finds axis Q t) ∧
    (∀ axis c C, axis ≠ .column → PatternSet.parse axis c = .ok C → ',' ∉ c.toList →
      '+' ∉ c.toList → ¬ "not:".toList <+: (Text.trim c).toList →
      ∃ N, PatternSet.parse axis ("not:" ++ c) = .ok N ∧
        ∀ t, s.Finds axis N t ↔ s.PassesApart axis t ∧ ¬ s.Finds axis C t) := by
  refine ⟨?_, ?_, ?_⟩
  · intro axis p q P Q hp hq
    refine ⟨P.union Q, PatternSet.parse_comma hp hq, fun t => ⟨finds_union P Q t,
      fun hAxis => evaluate_union hAxis P Q t, ?_⟩⟩
    -- for columns there is no first text; each of the sets tells its own boards
    rintro rfl
    exact ⟨boardsOn_union s P Q t, fun X _ g h => boards_of_evaluate h⟩
  · intro axis p q P Q hAxis hp hq hpComma hqComma
    obtain ⟨a, b, rfl, rfl, hParse⟩ := PatternSet.parse_plus hp hq hpComma hqComma
    exact ⟨_, hParse, finds_both hAxis a b⟩
  · intro axis c C hAxis hc hComma hPlus hPlain
    obtain ⟨condition, rfl, hParse⟩ := PatternSet.parse_negation hc hComma hPlus hPlain
    exact ⟨_, hParse, finds_flipped hAxis condition⟩

/-- A search without filters in an empty snapshot. -/
def bareSearch : Search := ⟨{}, Catalog.ofSnapshot {} {}, none⟩

/-- The pattern `raised`. -/
def raised : PatternSet := .ofPattern (.ofCondition ⟨.moved .raised, false⟩)

/-- The pattern `in:Low`. -/
def inLow : PatternSet := .ofPattern (.ofCondition ⟨.current "Low", false⟩)

/-- The three operators on priorities, with blanks and stray separators around them. -/
theorem text_operators_priority :
    (∃ U, PatternSet.parse .priority " raised ,+,in: Low" = .ok U ∧
      ∀ t, bareSearch.Finds .priority U t ↔
        bareSearch.Finds .priority raised t ∨ bareSearch.Finds .priority inLow t) ∧
    (∃ B, PatternSet.parse .priority "raised++in: Low" = .ok B ∧
      ∀ t, bareSearch.Finds .priority B t ↔
        bareSearch.Finds .priority raised t ∧ bareSearch.Finds .priority inLow t) ∧
    (∃ N, PatternSet.parse .priority "not: raised" = .ok N ∧
      ∀ t, bareSearch.Finds .priority N t ↔
        bareSearch.PassesApart .priority t ∧ ¬ bareSearch.Finds .priority raised t) := by
  obtain ⟨hComma, hPlus, hNot⟩ := text_operators bareSearch
  refine ⟨?_, ?_, ?_⟩
  · obtain ⟨U, hParse, hFinds⟩ := hComma .priority " raised ,+" "in: Low" raised inLow rfl rfl
    exact ⟨U, hParse, fun t => (hFinds t).1⟩
  · exact hPlus .priority "raised+" "in: Low" raised inLow (by decide) rfl rfl (by decide)
      (by decide)
  · exact hNot .priority " raised" raised (by decide) rfl (by decide) (by decide) (by decide)

end Search

end TicketTrail
