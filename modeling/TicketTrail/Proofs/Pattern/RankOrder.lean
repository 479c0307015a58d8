import Mathlib
import TicketTrail.Proofs.Pattern.Matching

/-!
# Only the order of ranks matters

Ranks are compared and nothing else is done with them, so a table can be filled with
any other ranks in the same order. With ranks in the opposite order every move goes
the other way, which is what a set says when the two keywords of its axis are
exchanged in it.

Both are one fact about a scale on which moves go as they go on another scale under
another name for their direction (`PatternSet.trace_redirect`).

Main results:

* `Scale.moved_of_strictMonoOn`, `Scale.moved_of_strictAntiOn` — which way moves go
  when the ranks are replaced;
* `PatternSet.trace_redirect` — renaming the directions of a set;
* `PatternSet.trace_by_rank_order` — ranks in the same order, and in the opposite
  one.
-/

namespace TicketTrail

/-! ## Tables with other ranks -/

namespace RankTable

/-- The ranks that the table gives. -/
def Ranks (table : RankTable) : Set Int :=
  {rank | ∃ name, table.rank? name = some rank}

/-- The second table ranks the names that the first one ranks, under the same rule, and
where the first has a rank the second has what `f` makes of it. -/
structure Rescales (f : Int → Int) (table table' : RankTable) : Prop where
  rule : table'.rule = table.rule
  rank : ∀ name, table'.rank? name = (table.rank? name).map f

/-- A table is rescaled by filling it with the other ranks. -/
theorem rescales_ofPairs (f : Int → Int) (rule : NameRule) (pairs : List (String × Int)) :
    (ofPairs rule pairs).Rescales f (ofPairs rule (pairs.map fun (name, rank) => (name, f rank)))
    where
  rule := rfl
  rank := by
    intro name
    -- the empty name is ranked by neither table
    by_cases hName : name = ""
    · simp [hName, rank?]
    · rw [rank?_ofPairs hName, rank?_ofPairs hName, ← List.map_reverse, List.find?_map,
        Option.map_map, Option.map_map]
      rfl

end RankTable

namespace OrderedAxis

/-- The other keyword of the axis; a direction that is not of the axis stays as it
is. -/
def opposite (axis : OrderedAxis) (d : Direction) : Direction :=
  if d = axis.upward then axis.downward else if d = axis.downward then axis.upward else d

theorem opposite_eq_upward_iff {axis : OrderedAxis} {d : Direction} :
    axis.opposite d = axis.upward ↔ d = axis.downward := by
  cases axis <;> cases d <;> decide

theorem opposite_eq_downward_iff {axis : OrderedAxis} {d : Direction} :
    axis.opposite d = axis.downward ↔ d = axis.upward := by
  cases axis <;> cases d <;> decide

end OrderedAxis

namespace Scale

variable {axis : OrderedAxis} {table table' : RankTable} {f : Int → Int}
  (h : table.Rescales f table')

include h

/-- Which way a move goes by the new ranks, told by the old ones. -/
theorem moved_rescaled_iff {d : Direction} {prior next : String} :
    moved ⟨axis, table'⟩ d prior next = true ↔
      ∃ a b, table.rank? prior = some a ∧ table.rank? next = some b ∧
        ((d = axis.upward ∧ f a < f b) ∨ (d = axis.downward ∧ f b < f a)) := by
  rw [moved_iff]
  -- a new rank is what `f` makes of an old one
  simp only [rank?, h.rank, Option.map_eq_some_iff]
  constructor
  · rintro ⟨_, _, ⟨a, ha, rfl⟩, ⟨b, hb, rfl⟩, hOrder⟩
    exact ⟨a, b, ha, hb, hOrder⟩
  · rintro ⟨a, b, ha, hb, hOrder⟩
    exact ⟨_, _, ⟨a, ha, rfl⟩, ⟨b, hb, rfl⟩, hOrder⟩

/-- By ranks in the same order a move goes the same way. -/
theorem moved_of_strictMonoOn (hf : StrictMonoOn f table.Ranks) (d : Direction)
    (prior next : String) :
    moved ⟨axis, table'⟩ d prior next = moved ⟨axis, table⟩ d prior next := by
  rw [Bool.eq_iff_iff, moved_rescaled_iff h, moved_iff]
  -- both ends have ranks in the table, where the new ranks compare like the old ones
  refine exists₂_congr fun a b => and_congr_right fun ha => and_congr_right fun hb => ?_
  simp only [hf.lt_iff_lt ⟨prior, ha⟩ ⟨next, hb⟩, hf.lt_iff_lt ⟨next, hb⟩ ⟨prior, ha⟩]

/-- By ranks in the opposite order a move goes the other way. -/
theorem moved_of_strictAntiOn (hf : StrictAntiOn f table.Ranks) (d : Direction)
    (prior next : String) :
    moved ⟨axis, table'⟩ d prior next = moved ⟨axis, table⟩ (axis.opposite d) prior next := by
  rw [Bool.eq_iff_iff, moved_rescaled_iff h, moved_iff]
  -- here they compare the other way round, so up and down change places
  refine exists₂_congr fun a b => and_congr_right fun ha => and_congr_right fun hb => ?_
  simp only [hf.lt_iff_gt ⟨prior, ha⟩ ⟨next, hb⟩, hf.lt_iff_gt ⟨next, hb⟩ ⟨prior, ha⟩,
    OrderedAxis.opposite_eq_upward_iff, OrderedAxis.opposite_eq_downward_iff]
  exact or_comm

end Scale

/-! ## Sets with other directions -/

section Redirect

variable (g : Direction → Direction)

/-- The kind with its direction, if it has one, replaced. -/
def Condition.Kind.redirect : Kind → Kind
  | left target direction => left target (direction.map g)
  | entered target => entered target
  | current target => current target
  | been target => been target
  | never target => never target
  | moved direction => moved (g direction)

/-- The condition with its direction replaced. -/
def Condition.redirect (c : Condition) : Condition :=
  { c with kind := c.kind.redirect g }

/-- The set with the direction replaced in every condition. -/
def PatternSet.redirect (set : PatternSet) : PatternSet :=
  ⟨set.patterns.map fun p => ⟨p.conditions.map (Condition.redirect g)⟩⟩

end Redirect

theorem Condition.redirect_id (c : Condition) : c.redirect id = c := by
  obtain ⟨kind, negated⟩ := c
  cases kind <;> simp [redirect, Kind.redirect]

theorem PatternSet.redirect_id (set : PatternSet) : set.redirect id = set := by
  have hCondition : Condition.redirect id = id := funext Condition.redirect_id
  simp [redirect, hCondition, NonEmpty.map]

section Matching

variable {scale scale' : Scale} {g : Direction → Direction}
  (hRule : scale'.ranks.rule = scale.ranks.rule)
  (hMoved : ∀ d prior next, scale'.moved d prior next = scale.moved (g d) prior next)

include hRule

/-- Whether two names are one state depends on the rule only. -/
theorem Scale.sameState_of_rule (a b : String) : scale'.sameState a b = scale.sameState a b := by
  rw [sameState, sameState, hRule]

theorem Move.enters_of_rule (target : String) : enters scale' target = enters scale target :=
  funext fun m => Scale.sameState_of_rule hRule m.next target

theorem Move.touches_of_rule (target : String) : touches scale' target = touches scale target := by
  funext m
  simp only [touches, Scale.sameState_of_rule hRule]

include hMoved

/-- Whether a move leaves a state in a direction is asked with the other direction there. -/
theorem Move.leaves_redirect (target : String) (direction : Option Direction) :
    leaves scale' target direction = leaves scale target (direction.map g) := by
  funext m
  unfold leaves
  cases m.prior with
  | none => rfl
  | some prior => simp only [Scale.sameState_of_rule hRule, hMoved, Option.all_map]

omit hRule in
/-- Whether it goes some way is asked with the other direction too. -/
theorem Move.goes_redirect (d : Direction) : goes scale' d = goes scale (g d) := by
  funext m
  simp only [goes, hMoved]

variable (moves : List Move) (now : Option String)

/-- Every kind of condition goes by names and directions only. -/
theorem Condition.Kind.judged_redirect (kind : Condition.Kind) :
    kind.holds scale' moves now = (kind.redirect g).holds scale moves now ∧
      kind.witness? scale' moves = (kind.redirect g).witness? scale moves := by
  cases kind with
  | left target direction =>
    simp only [redirect, holds, witness?, Move.leaves_redirect hRule hMoved, and_self]
  | entered target => simp only [redirect, holds, witness?, Move.enters_of_rule hRule, and_self]
  | current target => simp only [redirect, holds, witness?, Scale.sameState_of_rule hRule, and_self]
  | been target => simp only [redirect, holds, witness?, Move.touches_of_rule hRule, and_self]
  | never target => simp only [redirect, holds, witness?, Move.touches_of_rule hRule, and_self]
  | moved d => simp only [redirect, holds, witness?, Move.goes_redirect hMoved, and_self]

/-- **Renaming directions.** On a scale that goes by the same names and on which moves
go as they go elsewhere under other directions, a set is matched where the set with
those directions is matched there. -/
theorem PatternSet.trace_redirect (set : PatternSet) :
    (set.findMatch? scale' moves now).map PatternMatch.trace =
      ((set.redirect g).findMatch? scale moves now).map PatternMatch.trace := by
  refine trace_eq_of_forall₂ (R := fun c d => d = c.redirect g) ?_ ?_
  · rintro c _ rfl
    obtain ⟨hHolds, hWitness⟩ := Condition.Kind.judged_redirect hRule hMoved moves now c.kind
    rw [Condition.holds, Condition.witness?, hHolds, hWitness]
    exact ⟨rfl, rfl⟩
  · -- pattern by pattern and condition by condition, each with its own renaming
    rw [redirect, NonEmpty.toList_map, List.forall₂_map_right_iff]
    refine List.forall₂_same.mpr fun p _ => ?_
    rw [NonEmpty.toList_map, List.forall₂_map_right_iff]
    exact List.forall₂_same.mpr fun _ _ => rfl

end Matching

/-- **Only the order of ranks matters.** Between tables that rank the same names under
one rule, ranks in the same order give every set, on every history, the same match. With
ranks in the opposite order a set is matched as the set in which the two keywords of the
axis are exchanged. -/
theorem PatternSet.trace_by_rank_order (axis : OrderedAxis) {table table' : RankTable}
    {f : Int → Int} (h : table.Rescales f table') (set : PatternSet) (moves : List Move)
    (now : Option String) :
    (StrictMonoOn f table.Ranks →
      (set.findMatch? ⟨axis, table'⟩ moves now).map PatternMatch.trace =
        (set.findMatch? ⟨axis, table⟩ moves now).map PatternMatch.trace) ∧
    (StrictAntiOn f table.Ranks →
      (set.findMatch? ⟨axis, table'⟩ moves now).map PatternMatch.trace =
        ((set.redirect axis.opposite).findMatch? ⟨axis, table⟩ moves now).map
          PatternMatch.trace) := by
  constructor
  · intro hf
    have hMoved : ∀ d prior next, Scale.moved ⟨axis, table'⟩ d prior next =
        Scale.moved ⟨axis, table⟩ (id d) prior next :=
      Scale.moved_of_strictMonoOn h hf
    -- directions stay as they are
    have hTrace := trace_redirect h.rule hMoved moves now set
    rwa [redirect_id] at hTrace
  · intro hf
    exact trace_redirect h.rule (Scale.moved_of_strictAntiOn h hf) moves now set

/-- The patterns `from:Backlog:…,…`, with a direction in both places. -/
def leftBacklogOr (d : Direction) : PatternSet :=
  ⟨⟨⟨⟨⟨.left "Backlog" (some d), false⟩, []⟩⟩, [⟨⟨⟨.moved d, false⟩, []⟩⟩]⟩⟩

/-- To the first column, to the last one, and to one without a rank. -/
def roundTrip : List Move :=
  [⟨some "Done", "Backlog"⟩, ⟨some "Backlog", "Done"⟩, ⟨some "Done", "Attic"⟩]

/-- With the least and the greatest 64-bit rank, in either order. -/
theorem PatternSet.trace_by_rank_order_extreme :
    let apart : RankTable :=
      .ofPairs .exact [("Backlog", -9223372036854775808), ("Done", 9223372036854775807)]
    let reversed : RankTable :=
      .ofPairs .exact [("Backlog", 9223372036854775807), ("Done", -9223372036854775808)]
    ((leftBacklogOr .forward).findMatch? ⟨.column, apart⟩ roundTrip none).map
        PatternMatch.trace = some (0, [some 1]) ∧
      (leftBacklogOr .forward).redirect OrderedAxis.column.opposite = leftBacklogOr .backward ∧
      ((leftBacklogOr .forward).findMatch? ⟨.column, reversed⟩ roundTrip none).map
        PatternMatch.trace = some (1, [some 0]) := by
  intro apart reversed
  let table : RankTable := .ofPairs .exact [("Backlog", 0), ("Done", 1)]
  -- 0 and 1 go to the two ends of the range, in their order and the other way round
  have hApart : table.Rescales (fun r => r * 18446744073709551615 - 9223372036854775808) apart :=
    RankTable.rescales_ofPairs _ .exact [("Backlog", 0), ("Done", 1)]
  have hReversed :
      table.Rescales (fun r => 9223372036854775807 - r * 18446744073709551615) reversed :=
    RankTable.rescales_ofPairs _ .exact [("Backlog", 0), ("Done", 1)]
  have hUp : StrictMonoOn (fun r : Int => r * 18446744073709551615 - 9223372036854775808)
      table.Ranks := by
    intro a _ b _ hab
    dsimp only
    omega
  have hDown : StrictAntiOn (fun r : Int => 9223372036854775807 - r * 18446744073709551615)
      table.Ranks := by
    intro a _ b _ hab
    dsimp only
    omega
  refine ⟨?_, rfl, ?_⟩
  · rw [(trace_by_rank_order .column hApart (leftBacklogOr .forward) roundTrip none).1 hUp]
    decide
  · rw [(trace_by_rank_order .column hReversed (leftBacklogOr .forward) roundTrip none).2 hDown]
    decide

end TicketTrail
