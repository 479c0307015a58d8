import TicketTrail.Proofs.Pattern.Directions
import TicketTrail.Proofs.Pattern.Explanation

/-!
# How the kinds of condition are related

Conditions that ask for a move are tested by four separate functions of one move:
whether it leaves a state, enters one, touches one or goes some way. The four are
tied together at a single move: a move touches what it leaves or enters, it leaves a
state in a direction when it leaves that state and goes that way, and it goes some
way when it leaves its own prior state that way. A history is asked whether it has
such a move, so each of these carries over to the conditions. A move into a first
state has no prior state; it leaves nothing and goes no way, and the laws hold of it
as of any other.

A move made backwards leaves what it entered and goes the other way. So a history in
which every move is turned answers the same questions with `from` and `to`, and with
the two keywords of the axis, exchanged.

Main results:

* `Move.touches_eq_or`, `Move.leaves_eq_and`, `Move.goes_iff` — the tests of one move;
* `Move.leaves_reversed`, `Move.goes_reversed` — the tests of a move made backwards;
* `Condition.kinds_related` — the laws of the conditions on a whole history.
-/

namespace TicketTrail

/-! ## The tests of one move -/

theorem Scale.sameState_self (scale : Scale) (state : String) :
    scale.sameState state state = true := by
  rw [sameState, NameRule.same_iff]

namespace Move

variable (scale : Scale) (target : String) (d : Direction) (m : Move)

/-- A move touches what it leaves and what it enters. -/
theorem touches_eq_or :
    touches scale target m = (leaves scale target none m || enters scale target m) := by
  rw [touches, leaves, enters, endpoints]
  cases m.prior with
  | none => simp
  | some prior => simp

/-- A move leaves a state in a direction when it leaves that state and goes that way. -/
theorem leaves_eq_and :
    leaves scale target (some d) m = (leaves scale target none m && goes scale d m) := by
  rw [leaves, leaves, goes]
  cases m.prior with
  | none => rfl
  | some prior => simp

/-- A move goes some way when it leaves its prior state that way. -/
theorem goes_iff :
    goes scale d m = true ↔ ∃ prior ∈ m.prior, leaves scale prior (some d) m = true := by
  -- the prior state is the only one that the move leaves
  rw [goes, Option.any_eq_true]
  refine exists_congr fun prior => and_congr_right fun hPrior => ?_
  rw [leaves, hPrior]
  simp [scale.sameState_self]

/-! ## Moves made backwards -/

/-- The move made backwards. The move into a first state has no way back and stays as
it is. -/
def reversed (m : Move) : Move :=
  match m.prior with
  | some prior => ⟨some m.next, prior⟩
  | none => m

/-- A move touches the same states when it is made backwards. -/
theorem touches_reversed : touches scale target m.reversed = touches scale target m := by
  obtain ⟨prior, next⟩ := m
  cases prior with
  | none => rfl
  | some prior => simp [touches, endpoints, reversed, Bool.or_comm]

theorem goes_reversed : goes scale (scale.axis.opposite d) m.reversed = goes scale d m := by
  obtain ⟨prior, next⟩ := m
  cases prior with
  | none => rfl
  | some prior => exact scale.moved_opposite d prior next

variable {m} (hPrior : m.prior.isSome = true)

include hPrior

theorem leaves_reversed : leaves scale target none m.reversed = enters scale target m := by
  obtain ⟨prior, hSome⟩ := Option.isSome_iff_exists.mp hPrior
  simp [leaves, enters, reversed, hSome]

theorem enters_reversed : enters scale target m.reversed = leaves scale target none m := by
  obtain ⟨prior, hSome⟩ := Option.isSome_iff_exists.mp hPrior
  simp [leaves, enters, reversed, hSome]

end Move

/-! ## The conditions on a history -/

namespace Condition

variable (scale : Scale) (moves : List Move) (now : Option String)

/-- The condition of a kind, not negated. -/
def ofKind (kind : Kind) : Condition :=
  ⟨kind, false⟩

@[simp] theorem holds_ofKind (kind : Kind) :
    (ofKind kind).holds scale moves now = kind.holds scale moves now :=
  holds_of_not_negated rfl moves

namespace Kind

variable (target : String) (d : Direction)

/-- The ticket was in a state when it left it or entered it. -/
theorem holds_been_iff :
    (been target).holds scale moves now = true ↔
      (left target none).holds scale moves now = true ∨
        (entered target).holds scale moves now = true := by
  simp only [holds, List.any_eq_true, Move.touches_eq_or, Bool.or_eq_true, and_or_left, exists_or]

/-- Both halves of `from:X:d` are asked of the same move. -/
theorem holds_left_some_iff :
    (left target (some d)).holds scale moves now = true ↔
      ∃ m ∈ moves, (left target none).holds scale [m] now = true ∧
        (moved d).holds scale [m] now = true := by
  simp only [holds, List.any_eq_true, Move.leaves_eq_and, Bool.and_eq_true, List.mem_singleton,
    exists_eq_left]

/-- A ticket went some way when it left some prior state of its history that way. -/
theorem holds_moved_iff :
    (moved d).holds scale moves now = true ↔
      ∃ prior, (∃ m ∈ moves, prior ∈ m.prior) ∧
        (left prior (some d)).holds scale moves now = true := by
  simp only [holds, List.any_eq_true]
  constructor
  · rintro ⟨m, hm, hGoes⟩
    obtain ⟨prior, hPrior, hLeaves⟩ := (Move.goes_iff scale d m).mp hGoes
    exact ⟨prior, ⟨m, hm, hPrior⟩, m, hm, hLeaves⟩
  · rintro ⟨prior, -, m, hm, hLeaves⟩
    -- whichever move leaves that state, it goes the way asked for
    rw [Move.leaves_eq_and, Bool.and_eq_true] at hLeaves
    exact ⟨m, hm, hLeaves.2⟩

/-! ### Histories turned round -/

/-- A history of turned moves is asked the turned question. -/
theorem any_reversed {test turned : Move → Bool}
    (h : ∀ m ∈ moves, turned m.reversed = test m) :
    (moves.map Move.reversed).any turned = moves.any test := by
  rw [List.any_map, Bool.eq_iff_iff, List.any_eq_true, List.any_eq_true]
  -- the moves are the same ones, and each answers the turned question as it did the other
  refine exists_congr fun m => and_congr_right fun hm => ?_
  rw [Function.comp_apply, h m hm]

/-- Where the ticket has been is the same in both directions of time. -/
theorem holds_been_reversed :
    (been target).holds scale (moves.map Move.reversed) now =
      (been target).holds scale moves now :=
  any_reversed moves fun m _ => m.touches_reversed scale target

/-- The keywords of the axis change places. -/
theorem holds_moved_reversed :
    (moved (scale.axis.opposite d)).holds scale (moves.map Move.reversed) now =
      (moved d).holds scale moves now :=
  any_reversed moves fun m _ => m.goes_reversed scale d

theorem holds_entered_reversed (hPrior : ∀ m ∈ moves, m.prior.isSome = true) :
    (entered target).holds scale (moves.map Move.reversed) now =
      (left target none).holds scale moves now :=
  any_reversed moves fun m hm => Move.enters_reversed scale target (hPrior m hm)

theorem holds_left_reversed (hPrior : ∀ m ∈ moves, m.prior.isSome = true) :
    (left target none).holds scale (moves.map Move.reversed) now =
      (entered target).holds scale moves now :=
  any_reversed moves fun m hm => Move.leaves_reversed scale target (hPrior m hm)

end Kind

/-- **The kinds of condition are related by fixed laws.** A ticket has been in a state
when it left it or entered it, and else it never was there. It left a state in a
direction when one move did both, and it moved in a direction when it left some prior
state of its history that way. Negation inverts every condition, and twice it changes
nothing. On a history without a first move, read backwards, `from` and `to` change
places and so do the keywords of the axis; what asks where the ticket was, or where it
is, stays as it is. -/
theorem kinds_related (scale : Scale) (moves : List Move) (now : Option String)
    (target : String) (d : Direction) :
    let holds := Condition.holds scale moves now
    let back := Condition.holds scale (moves.map Move.reversed) now
    (holds (ofKind (.been target)) = true ↔
        holds (ofKind (.left target none)) = true ∨ holds (ofKind (.entered target)) = true) ∧
      (holds (ofKind (.never target)) = true ↔ ¬ holds (ofKind (.been target)) = true) ∧
      (holds (ofKind (.left target (some d))) = true ↔
        ∃ m ∈ moves, (ofKind (.left target none)).holds scale [m] now = true ∧
          (ofKind (.moved d)).holds scale [m] now = true) ∧
      (holds (ofKind (.moved d)) = true ↔
        ∃ prior, (∃ m ∈ moves, m.prior = some prior) ∧
          holds (ofKind (.left prior (some d))) = true) ∧
      (∀ c, holds c.negate = !holds c ∧ holds c.negate.negate = holds c) ∧
      ((∀ m ∈ moves, m.prior.isSome = true) →
        holds (ofKind (.left target none)) = back (ofKind (.entered target)) ∧
          holds (ofKind (.entered target)) = back (ofKind (.left target none)) ∧
          holds (ofKind (.been target)) = back (ofKind (.been target)) ∧
          holds (ofKind (.never target)) = back (ofKind (.never target)) ∧
          holds (ofKind (.current target)) = back (ofKind (.current target)) ∧
          holds (ofKind (.moved d)) = back (ofKind (.moved (scale.axis.opposite d)))) := by
  -- the laws are those of the kinds, to which negation is added in the end
  intro holds back
  simp only [holds, back, holds_ofKind]
  refine ⟨Kind.holds_been_iff scale moves now target, ?_,
    Kind.holds_left_some_iff scale moves now target d, Kind.holds_moved_iff scale moves now d,
    fun c => ?_, fun hPrior => ?_⟩
  · simp [Kind.holds]
  · exact ⟨c.holds_negate scale moves now, by rw [negate_negate]⟩
  · have hBeen := Kind.holds_been_reversed scale moves now target
    refine ⟨(Kind.holds_entered_reversed scale moves now target hPrior).symm,
      (Kind.holds_left_reversed scale moves now target hPrior).symm, hBeen.symm, ?_, rfl,
      (Kind.holds_moved_reversed scale moves now d).symm⟩
    -- `never` is the absence of what `been` asks for
    exact congrArg Bool.not hBeen.symm

/-- For a history of two moves, none of them into a first state. -/
theorem kinds_related_leftTwice :
    let moves := leftTwice.map Event.toMove
    (∀ m ∈ moves, m.prior.isSome = true) ∧
      (ofKind (.left "Doing" none)).holds threeColumns moves none = true ∧
      (ofKind (.entered "Doing")).holds threeColumns (moves.map Move.reversed) none = true ∧
      (ofKind (.moved .forward)).holds threeColumns moves none = true ∧
      (ofKind (.moved .backward)).holds threeColumns (moves.map Move.reversed) none = true := by
  intro moves
  have hPrior : ∀ m ∈ moves, m.prior.isSome = true := by decide
  have hLeft : (ofKind (.left "Doing" none)).holds threeColumns moves none = true := by decide
  have hForward : (ofKind (.moved .forward)).holds threeColumns moves none = true := by decide
  obtain ⟨-, -, -, -, -, hBack⟩ := kinds_related threeColumns moves none "Doing" .forward
  obtain ⟨hEntered, -, -, -, -, hMoved⟩ := hBack hPrior
  exact ⟨hPrior, hLeft, hEntered.symm.trans hLeft, hForward, hMoved.symm.trans hForward⟩

end Condition

end TicketTrail
