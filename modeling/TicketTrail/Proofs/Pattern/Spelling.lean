import TicketTrail.Catalog
import TicketTrail.Proofs.Pattern.Matching

/-!
# Spellings of a name

The name rule of an axis decides which names are the same state. Two mechanisms go by
it: names are compared with each other, and they are looked up in the rank table. Both
see no more of a name than the key it is folded to, so no condition can tell two
spellings of one state apart (`Condition.Kind.judged_alike`), and the target of a
condition, the ends of a move and the current state can each be spelled anew by
itself.

The table keeps keys as well, so the spelling of its own names is lost when it is
filled (`RankTable.ofPairs_eq_of_same`). Priorities and statuses are compared without
regard to case; there a spelling is a name in some case.

Main results:

* `Scale.moved_eq_of_sameState` — directions do not depend on the spelling;
* `Condition.Kind.judged_alike` — nor does any kind of condition;
* `PatternSet.trace_ignores_spelling` — nor does where a set is matched.
-/

namespace TicketTrail

/-! ## Names and ranks -/

namespace Scale

variable {scale : Scale} {a a' b b' : String}

/-- Two names are one state when they are folded to one key. -/
theorem sameState_iff : scale.sameState a b = true ↔
    scale.ranks.rule.key a = scale.ranks.rule.key b :=
  NameRule.same_iff

/-- Two names can be compared under any other spellings. -/
theorem sameState_eq_of_sameState (ha : scale.sameState a a' = true)
    (hb : scale.sameState b b' = true) : scale.sameState a b = scale.sameState a' b' := by
  rw [sameState_iff] at ha hb
  rw [sameState, sameState, NameRule.same, NameRule.same, ha, hb]

theorem rank?_eq_of_sameState (h : scale.sameState a b = true) : scale.rank? a = scale.rank? b :=
  RankTable.rank?_eq_of_same h

/-- Directions do not depend on the spelling of the states. -/
theorem moved_eq_of_sameState (d : Direction) (ha : scale.sameState a a' = true)
    (hb : scale.sameState b b' = true) : scale.moved d a b = scale.moved d a' b' := by
  rw [moved, moved, rank?_eq_of_sameState ha, rank?_eq_of_sameState hb]

end Scale

/-- Tables that are filled with the same ranks under other spellings are the same. -/
theorem RankTable.ofPairs_eq_of_same {rule : NameRule} {pairs pairs' : List (String × Int)}
    (h : List.Forall₂ (fun x y => rule.same x.1 y.1 = true ∧ x.2 = y.2) pairs pairs') :
    ofPairs rule pairs = ofPairs rule pairs' := by
  -- what is listed agrees pair by pair once the names are folded to their keys
  refine congrArg (fun keyed => RankTable.mk rule (List.reverse keyed)) ?_
  rw [← List.forall₂_eq_eq_eq, List.forall₂_map_left_iff, List.forall₂_map_right_iff]
  exact h.imp fun _ _ hPair => Prod.ext (NameRule.same_iff.mp hPair.1) hPair.2

/-! ## Moves and conditions -/

/-- The names are the same state, or there are none. -/
def Scale.SameIfAny (scale : Scale) : Option String → Option String → Prop :=
  Option.Rel fun a b => scale.sameState a b = true

/-- The moves are between the same states. -/
structure Move.SameStates (scale : Scale) (m m' : Move) : Prop where
  prior : scale.SameIfAny m.prior m'.prior
  next : scale.sameState m.next m'.next = true

/-- The conditions are of one kind, with the same states as their targets and with the
same directions. -/
inductive Condition.Kind.SameStates (scale : Scale) : Kind → Kind → Prop
  | left {a b : String} (h : scale.sameState a b = true) (direction : Option Direction) :
    SameStates scale (.left a direction) (.left b direction)
  | entered {a b : String} (h : scale.sameState a b = true) :
    SameStates scale (.entered a) (.entered b)
  | current {a b : String} (h : scale.sameState a b = true) :
    SameStates scale (.current a) (.current b)
  | been {a b : String} (h : scale.sameState a b = true) : SameStates scale (.been a) (.been b)
  | never {a b : String} (h : scale.sameState a b = true) : SameStates scale (.never a) (.never b)
  | moved (direction : Direction) : SameStates scale (.moved direction) (.moved direction)

/-- The conditions are the same but for the spelling of their targets. -/
structure Condition.SameStates (scale : Scale) (c c' : Condition) : Prop where
  kind : c.kind.SameStates scale c'.kind
  negated : c.negated = c'.negated

/-- The sets are the same, condition by condition, but for the spelling of targets. -/
def PatternSet.SameStates (scale : Scale) (set set' : PatternSet) : Prop :=
  List.Forall₂ (fun p q =>
      List.Forall₂ (Condition.SameStates scale) p.conditions.toList q.conditions.toList)
    set.patterns.toList set'.patterns.toList

namespace Move

variable {scale : Scale} {a b : String} {m m' : Move}

/-- What a move leaves does not depend on spelling. -/
theorem leaves_eq_of_sameStates (h : scale.sameState a b = true) (direction : Option Direction)
    (hMove : m.SameStates scale m') : m.leaves scale a direction = m'.leaves scale b direction := by
  obtain ⟨prior, next⟩ := m
  obtain ⟨prior', next'⟩ := m'
  obtain ⟨hPrior, hNext⟩ := hMove
  cases hPrior with
  | none => rfl
  | some hPrior =>
    -- the direction is asked of the ends of the move, spelled either way
    have hMoved : (fun d => scale.moved d _ next) = fun d => scale.moved d _ next' :=
      funext fun d => Scale.moved_eq_of_sameState d hPrior hNext
    simp only [leaves, Scale.sameState_eq_of_sameState hPrior h, hMoved]

theorem enters_eq_of_sameStates (h : scale.sameState a b = true) (hMove : m.SameStates scale m') :
    m.enters scale a = m'.enters scale b :=
  Scale.sameState_eq_of_sameState hMove.next h

/-- What a move touches does not depend on the spelling of its ends. -/
theorem touches_eq_of_sameStates (h : scale.sameState a b = true) (hMove : m.SameStates scale m') :
    m.touches scale a = m'.touches scale b := by
  obtain ⟨prior, next⟩ := m
  obtain ⟨prior', next'⟩ := m'
  obtain ⟨hPrior, hNext⟩ := hMove
  have hEnters := Scale.sameState_eq_of_sameState hNext h
  -- a move into a first state touches that state only
  cases hPrior with
  | none => simp only [touches, endpoints, Option.toList_none, List.nil_append, List.any_cons,
      List.any_nil, hEnters]
  | some hPrior =>
    simp only [touches, endpoints, Option.toList_some, List.cons_append, List.nil_append,
      List.any_cons, List.any_nil, hEnters, Scale.sameState_eq_of_sameState hPrior h]

/-- Nor does the way a move goes. -/
theorem goes_eq_of_sameStates (d : Direction) (hMove : m.SameStates scale m') :
    m.goes scale d = m'.goes scale d := by
  obtain ⟨prior, next⟩ := m
  obtain ⟨prior', next'⟩ := m'
  obtain ⟨hPrior, hNext⟩ := hMove
  cases hPrior with
  | none => rfl
  | some hPrior => exact Scale.moved_eq_of_sameState d hPrior hNext

end Move

/-! ## Matching -/

section Matching

variable {scale : Scale} {moves moves' : List Move} {now now' : Option String}
  (hMoves : List.Forall₂ (Move.SameStates scale) moves moves') (hNow : scale.SameIfAny now now')

include hMoves hNow

/-- **No kind of condition depends on spelling**, and neither does its witness. -/
theorem Condition.Kind.judged_alike {kind kind' : Condition.Kind}
    (h : kind.SameStates scale kind') :
    kind.holds scale moves now = kind'.holds scale moves' now' ∧
      kind.witness? scale moves = kind'.witness? scale moves' := by
  -- moves that pass one test pass the other, so the first of them has the same place
  have hFirst : ∀ test test' : Move → Bool,
      (∀ m m', m.SameStates scale m' → test m = test' m') →
        moves.any test = moves'.any test' ∧ moves.findIdx? test = moves'.findIdx? test' := by
    intro test test' hTest
    have hIdx := findIdx?_eq_of_forall₂ hMoves hTest
    exact ⟨by rw [← List.findIdx?_isSome, hIdx, List.findIdx?_isSome], hIdx⟩
  -- each kind asks one test of the moves, except for `in`
  cases h with
  | left hTarget direction =>
    exact hFirst _ _ fun _ _ => Move.leaves_eq_of_sameStates hTarget direction
  | entered hTarget => exact hFirst _ _ fun _ _ => Move.enters_eq_of_sameStates hTarget
  | current hTarget =>
    refine ⟨?_, rfl⟩
    cases hNow with
    | none => rfl
    | some hState => exact Scale.sameState_eq_of_sameState hState hTarget
  | been hTarget => exact hFirst _ _ fun _ _ => Move.touches_eq_of_sameStates hTarget
  | never hTarget =>
    have hTouches := hFirst _ _ fun _ _ => Move.touches_eq_of_sameStates hTarget
    exact ⟨congrArg Bool.not hTouches.1, rfl⟩
  | moved direction => exact hFirst _ _ fun _ _ => Move.goes_eq_of_sameStates direction

/-- A condition is judged alike under any spelling, negated or not, and by the same
witness. -/
theorem Condition.judged_alike {c c' : Condition} (h : c.SameStates scale c') :
    c.holds scale moves now = c'.holds scale moves' now' ∧
      c.witness? scale moves = c'.witness? scale moves' := by
  obtain ⟨hHolds, hWitness⟩ := Kind.judged_alike hMoves hNow h.kind
  rw [holds, holds, witness?, witness?, hHolds, hWitness, h.negated]
  exact ⟨rfl, rfl⟩

/-- So a set is matched alike under any spelling. -/
theorem PatternSet.trace_eq_of_sameStates {set set' : PatternSet} (h : set.SameStates scale set') :
    (set.findMatch? scale moves now).map PatternMatch.trace =
      (set'.findMatch? scale moves' now').map PatternMatch.trace :=
  trace_eq_of_forall₂ (fun _ _ => Condition.judged_alike hMoves hNow) h

end Matching

/-! ## Case -/

/-- Where case is ignored, spellings of a state are the names with one lowercase. -/
theorem Scale.sameState_ignoreCase_iff {scale : Scale} (h : scale.ranks.rule = .ignoreCase)
    {a b : String} : scale.sameState a b = true ↔ Text.lower a = Text.lower b := by
  rw [sameState_iff, h]
  rfl

namespace Catalog

variable (snapshot : Snapshot) (settings : Settings)

/-- Priorities are ranked under their names without regard to case. -/
theorem exists_priority_eq_ofPairs :
    ∃ pairs, (ofSnapshot snapshot settings).priority = ⟨.priority, .ofPairs .ignoreCase pairs⟩ := by
  show ∃ pairs, (⟨.priority, settings.priorityRanks⟩ : Scale) = _
  rw [Settings.priorityRanks]
  split <;> exact ⟨_, rfl⟩

/-- Statuses are ranked under their names without regard to case. -/
theorem exists_status_eq_ofPairs :
    ∃ pairs, (ofSnapshot snapshot settings).status = ⟨.status, .ofPairs .ignoreCase pairs⟩ := by
  show ∃ pairs, (⟨.status, (snapshot.statuses.map StatusList.ranks).getD settings.statusRanks⟩ :
    Scale) = _
  -- the table is that of the listed statuses, of the settings, or the fallback
  cases snapshot.statuses with
  | none =>
    rw [Option.map_none, Option.getD_none, Settings.statusRanks]
    split <;> exact ⟨_, rfl⟩
  | some statuses =>
    rw [Option.map_some, Option.getD_some, StatusList.ranks]
    split <;> exact ⟨_, rfl⟩

end Catalog

/-- **Spelling does not matter to a match.** Every target, both ends of every move and
the current state can be replaced, each by itself, by names that stand for the same
state; the set is matched at the same place by the same moves, or is not matched as
before. Where case is ignored that is to say that case does not matter, and there the
names in the rank table can be in another case as well. The priorities and the statuses
of every tracker are such. -/
theorem PatternSet.trace_ignores_spelling :
    (∀ (scale : Scale) (set set' : PatternSet) (moves moves' : List Move)
      (now now' : Option String), set.SameStates scale set' →
      List.Forall₂ (Move.SameStates scale) moves moves' → scale.SameIfAny now now' →
        (set.findMatch? scale moves now).map PatternMatch.trace =
          (set'.findMatch? scale moves' now').map PatternMatch.trace) ∧
    (∀ (axis : OrderedAxis) (pairs pairs' : List (String × Int)),
      List.Forall₂ (fun x y => Text.lower x.1 = Text.lower y.1 ∧ x.2 = y.2) pairs pairs' →
      let scale : Scale := ⟨axis, .ofPairs .ignoreCase pairs⟩
      let scale' : Scale := ⟨axis, .ofPairs .ignoreCase pairs'⟩
      (∀ a b, scale.sameState a b = true ↔ Text.lower a = Text.lower b) ∧
        ∀ (set set' : PatternSet) (moves moves' : List Move) (now now' : Option String),
          set.SameStates scale set' → List.Forall₂ (Move.SameStates scale) moves moves' →
          scale.SameIfAny now now' →
            (set.findMatch? scale moves now).map PatternMatch.trace =
              (set'.findMatch? scale' moves' now').map PatternMatch.trace) ∧
    ∀ (snapshot : Snapshot) (settings : Settings),
      let catalog := Catalog.ofSnapshot snapshot settings
      (∃ pairs, catalog.priority = ⟨.priority, .ofPairs .ignoreCase pairs⟩) ∧
        ∃ pairs, catalog.status = ⟨.status, .ofPairs .ignoreCase pairs⟩ := by
  refine ⟨?_, ?_, ?_⟩
  · intro scale set set' moves moves' now now' hSet hMoves hNow
    exact trace_eq_of_sameStates hMoves hNow hSet
  · intro axis pairs pairs' hPairs scale scale'
    -- the table folds its names when it is filled, so both are one scale
    have hTable : RankTable.ofPairs .ignoreCase pairs = .ofPairs .ignoreCase pairs' :=
      RankTable.ofPairs_eq_of_same (hPairs.imp fun _ _ hPair =>
        ⟨NameRule.same_iff.mpr hPair.1, hPair.2⟩)
    have hScale : scale' = scale := congrArg (Scale.mk axis) hTable.symm
    refine ⟨fun a b => Scale.sameState_ignoreCase_iff rfl, ?_⟩
    intro set set' moves moves' now now' hSet hMoves hNow
    rw [hScale]
    exact trace_eq_of_sameStates hMoves hNow hSet
  · intro snapshot settings catalog
    exact ⟨Catalog.exists_priority_eq_ofPairs snapshot settings,
      Catalog.exists_status_eq_ofPairs snapshot settings⟩

/-- The pattern `from:…:raised+in:…`, of two priorities. -/
def raisedFrom (start now : String) : PatternSet :=
  ⟨⟨⟨⟨.left start (some .raised), false⟩, [⟨.current now, false⟩]⟩, []⟩⟩

/-- Two priorities, with every name in another case on the other side. -/
theorem PatternSet.trace_ignores_spelling_capitals :
    let urgent : RankTable := .ofPairs .ignoreCase [("High", 0), ("Normal", 1)]
    let urgent' : RankTable := .ofPairs .ignoreCase [("HIGH", 0), ("normal", 1)]
    Text.lower "NORMAL" = Text.lower "normal" ∧
      ((raisedFrom "NORMAL" "High").findMatch? ⟨.priority, urgent⟩
        [⟨some "high", "Normal"⟩, ⟨some "Normal", "high"⟩] (some "high")).map PatternMatch.trace =
          some (0, [some 1, none]) ∧
      ((raisedFrom "normal" "hIGH").findMatch? ⟨.priority, urgent'⟩
        [⟨some "HIGH", "normal"⟩, ⟨some "NORMAL", "High"⟩] (some "High")).map PatternMatch.trace =
          some (0, [some 1, none]) := by
  intro urgent urgent'
  have hFound : ((raisedFrom "NORMAL" "High").findMatch? ⟨.priority, urgent⟩
      [⟨some "high", "Normal"⟩, ⟨some "Normal", "high"⟩] (some "high")).map PatternMatch.trace =
        some (0, [some 1, none]) := by decide
  have hPairs : List.Forall₂ (fun x y => Text.lower x.1 = Text.lower y.1 ∧ x.2 = y.2)
      [("High", (0 : Int)), ("Normal", 1)] [("HIGH", 0), ("normal", 1)] := by decide
  obtain ⟨hSame, hTrace⟩ := trace_ignores_spelling.2.1 .priority _ _ hPairs
  refine ⟨by decide, hFound, (hTrace _ _ _ _ _ _ ?_ ?_ ?_).symm.trans hFound⟩
  · -- one pattern of two conditions
    refine .cons (.cons ⟨.left ?_ _, rfl⟩ (.cons ⟨.current ?_, rfl⟩ .nil)) .nil
    · exact (hSame _ _).mpr (by decide)
    · exact (hSame _ _).mpr (by decide)
  · refine .cons ⟨.some ?_, ?_⟩ (.cons ⟨.some ?_, ?_⟩ .nil)
    all_goals exact (hSame _ _).mpr (by decide)
  · exact .some ((hSame _ _).mpr (by decide))

end TicketTrail
