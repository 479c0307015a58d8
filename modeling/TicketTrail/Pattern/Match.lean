import TicketTrail.Event
import TicketTrail.Pattern.Condition
import TicketTrail.Scale

/-!
# Matching

Whether a condition holds of a ticket's moves and its current state, and which pattern of a set is
the first to match. A match names, for each condition, the first move that made it hold, where there
is one: a condition on the current state, a `never` condition and a negated condition hold without
such a witness.

Matching never fails. A state without a rank satisfies no direction.

## Main results

* `Condition.holds_negate` — negation inverts a condition;
* `Pattern.witnesses?_isSome` — a pattern has witnesses exactly when all its conditions hold;
* `PatternSet.findMatch?_isSome` — a set has a match exactly when one of its patterns matches.
-/

namespace TicketTrail

namespace Move

/-- The move left `target`, in the given direction if one is given. -/
def leaves (scale : Scale) (target : String) (direction : Option Direction) (m : Move) : Bool :=
  match m.prior with
  | none => false
  | some prior =>
    scale.sameState prior target && direction.all fun d => scale.moved d prior m.next

/-- The move entered `target`. -/
def enters (scale : Scale) (target : String) (m : Move) : Bool :=
  scale.sameState m.next target

/-- The move has `target` at one of its ends. -/
def touches (scale : Scale) (target : String) (m : Move) : Bool :=
  m.endpoints.any fun state => scale.sameState state target

/-- The move goes in the given direction. -/
def goes (scale : Scale) (direction : Direction) (m : Move) : Bool :=
  m.prior.any fun prior => scale.moved direction prior m.next

end Move

namespace Condition

/-- The condition holds of the moves and the current state, before negation. -/
def Kind.holds (scale : Scale) (moves : List Move) (now : Option String) : Kind → Bool
  | left target direction => moves.any (Move.leaves scale target direction)
  | entered target => moves.any (Move.enters scale target)
  | current target => now.any fun state => scale.sameState state target
  | been target => moves.any (Move.touches scale target)
  | never target => !moves.any (Move.touches scale target)
  | moved direction => moves.any (Move.goes scale direction)

/-- The condition holds of the moves and the current state. -/
def holds (scale : Scale) (moves : List Move) (now : Option String) (c : Condition) : Bool :=
  c.kind.holds scale moves now != c.negated

/-- The index of the first move that makes the condition hold, before negation. -/
def Kind.witness? (scale : Scale) (moves : List Move) : Kind → Option Nat
  | left target direction => moves.findIdx? (Move.leaves scale target direction)
  | entered target => moves.findIdx? (Move.enters scale target)
  | been target => moves.findIdx? (Move.touches scale target)
  | moved direction => moves.findIdx? (Move.goes scale direction)
  | current _ | never _ => none

/-- The index of the first move that makes the condition hold. A negated condition has no
witness. -/
def witness? (scale : Scale) (moves : List Move) (c : Condition) : Option Nat :=
  if c.negated then none else c.kind.witness? scale moves

/-- Negation inverts a condition. -/
theorem holds_negate (scale : Scale) (moves : List Move) (now : Option String) (c : Condition) :
    c.negate.holds scale moves now = !c.holds scale moves now := by
  simp only [holds, negate]
  cases c.kind.holds scale moves now <;> cases c.negated <;> rfl

end Condition

/-- A pattern that matched, its place in the set, and a witness for each condition that has one. -/
structure PatternMatch where
  index : Nat
  pattern : Pattern
  witnesses : List (Option Nat)
deriving Repr, DecidableEq

/-- The conditions that have a witness, each with the entry of a list that stands where the move
stood that made it hold: a move, or the event it belongs to. -/
def PatternMatch.evidence {α : Type} (found : PatternMatch) (moves : List α) :
    List (Condition × α) :=
  (found.pattern.conditions.toList.zip found.witnesses).filterMap fun (condition, witness) =>
    (witness.bind (moves[·]?)).map fun m => (condition, m)

namespace Pattern

/-- Every condition holds. -/
def holds (scale : Scale) (moves : List Move) (now : Option String) (p : Pattern) : Bool :=
  p.conditions.toList.all (Condition.holds scale moves now)

/-- The witnesses of the conditions, unless one of them fails. -/
def witnesses? (scale : Scale) (moves : List Move) (now : Option String) (p : Pattern) :
    Option (List (Option Nat)) :=
  p.conditions.toList.mapM fun c =>
    if c.holds scale moves now then some (c.witness? scale moves) else none

/-- A pattern has witnesses exactly when all its conditions hold. -/
theorem witnesses?_isSome (scale : Scale) (moves : List Move) (now : Option String) (p : Pattern) :
    (p.witnesses? scale moves now).isSome = p.holds scale moves now := by
  unfold witnesses? holds
  induction p.conditions.toList with
  | nil => rfl
  | cons c rest ih =>
    rw [List.mapM_cons, List.all_cons]
    by_cases h : c.holds scale moves now
    · simp only [h, if_true, Option.pure_def, Option.bind_eq_bind, Option.bind_some, Bool.true_and,
        ← ih]
      cases rest.mapM fun c =>
        if c.holds scale moves now then some (c.witness? scale moves) else none <;> rfl
    · simp [h]

end Pattern

namespace PatternSet

/-- The first of the patterns that matches, where the first of them has the given index. -/
def findFrom? (scale : Scale) (moves : List Move) (now : Option String) (index : Nat) :
    List Pattern → Option PatternMatch
  | [] => none
  | pattern :: rest =>
    match pattern.witnesses? scale moves now with
    | some witnesses => some { index, pattern, witnesses }
    | none => findFrom? scale moves now (index + 1) rest

/-- The first pattern that matches. -/
def findMatch? (scale : Scale) (moves : List Move) (now : Option String) (set : PatternSet) :
    Option PatternMatch :=
  findFrom? scale moves now 0 set.patterns.toList

/-- Some pattern matches. -/
def holds (scale : Scale) (moves : List Move) (now : Option String) (set : PatternSet) : Bool :=
  (set.findMatch? scale moves now).isSome

theorem findFrom?_isSome (scale : Scale) (moves : List Move) (now : Option String) (index : Nat)
    (patterns : List Pattern) :
    (findFrom? scale moves now index patterns).isSome =
      patterns.any (Pattern.holds scale moves now) := by
  induction patterns generalizing index with
  | nil => rfl
  | cons p rest ih =>
    rw [List.any_cons, ← Pattern.witnesses?_isSome, findFrom?]
    cases p.witnesses? scale moves now with
    | some w => rfl
    | none => simpa using ih (index + 1)

/-- A set has a match exactly when one of its patterns matches. -/
theorem findMatch?_isSome (scale : Scale) (moves : List Move) (now : Option String)
    (set : PatternSet) :
    (set.findMatch? scale moves now).isSome =
      set.patterns.toList.any (Pattern.holds scale moves now) :=
  findFrom?_isSome scale moves now 0 set.patterns.toList

end PatternSet

end TicketTrail
