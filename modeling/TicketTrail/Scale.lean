import TicketTrail.Axis
import TicketTrail.Scale.RankTable

/-!
# Scales

A scale is an ordered axis together with the ranks of its states. It decides which names are the
same state and which way a move between two states goes.

## Main results

* `Scale.moved_upward_iff`, `Scale.moved_downward_iff` — the two directions of the axis are the two
  strict halves of the rank order;
* `Scale.moved_eq_false_of_not_mem` — no other direction ever holds.
-/

namespace TicketTrail

/-- An ordered axis and the ranks of its states. -/
structure Scale where
  axis : OrderedAxis
  ranks : RankTable
deriving Repr, DecidableEq

namespace Scale

/-- The scale of an axis before anything is known of the tracker: no columns, the built-in
priorities and the fallback statuses. -/
def plain : OrderedAxis → Scale
  | .column => ⟨.column, .empty .exact⟩
  | .priority => ⟨.priority, .builtinPriority⟩
  | .status => ⟨.status, .fallbackStatus⟩

/-- The rank of a state, unless it is unknown. -/
def rank? (scale : Scale) (name : String) : Option Int :=
  scale.ranks.rank? name

/-- The two names are the same state. -/
def sameState (scale : Scale) (a b : String) : Bool :=
  scale.ranks.rule.same a b

/-- A move from `prior` to `next` goes in the given direction. A move from or to a state without a
rank goes in no direction. -/
def moved (scale : Scale) (direction : Direction) (prior next : String) : Bool :=
  match scale.rank? prior, scale.rank? next with
  | some a, some b =>
    (direction == scale.axis.upward && a < b) || (direction == scale.axis.downward && b < a)
  | _, _ => false

/-! ## Directions and ranks -/

theorem moved_iff {scale : Scale} {d : Direction} {prior next : String} :
    scale.moved d prior next = true ↔
      ∃ a b, scale.rank? prior = some a ∧ scale.rank? next = some b ∧
        ((d = scale.axis.upward ∧ a < b) ∨ (d = scale.axis.downward ∧ b < a)) := by
  unfold moved
  split
  · next a b ha hb => simp [ha, hb]
  · next h =>
    constructor
    · simp
    · rintro ⟨a, b, ha, hb, _⟩
      exact absurd hb (h a b ha)

/-- A move goes up the scale exactly when both states are ranked and the rank grows. -/
theorem moved_upward_iff {scale : Scale} {prior next : String} :
    scale.moved scale.axis.upward prior next = true ↔
      ∃ a b, scale.rank? prior = some a ∧ scale.rank? next = some b ∧ a < b := by
  simp [moved_iff, OrderedAxis.upward_ne_downward]

/-- A move goes down the scale exactly when both states are ranked and the rank shrinks. -/
theorem moved_downward_iff {scale : Scale} {prior next : String} :
    scale.moved scale.axis.downward prior next = true ↔
      ∃ a b, scale.rank? prior = some a ∧ scale.rank? next = some b ∧ b < a := by
  simp [moved_iff, (OrderedAxis.upward_ne_downward _).symm]

/-- The directions of the other axes never hold. -/
theorem moved_eq_false_of_not_mem {scale : Scale} {d : Direction} {prior next : String}
    (h : d ∉ scale.axis.directions) : scale.moved d prior next = false := by
  rw [OrderedAxis.mem_directions_iff, not_or] at h
  rw [Bool.eq_false_iff, Ne, moved_iff]
  rintro ⟨a, b, _, _, hd | hd⟩
  · exact h.1 hd.1
  · exact h.2 hd.1

end Scale

end TicketTrail
