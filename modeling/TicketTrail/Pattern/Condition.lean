import TicketTrail.Axis
import TicketTrail.NonEmpty

/-!
# Conditions, patterns and pattern sets

A condition tests a ticket's history or its current state on one axis. A pattern asks for all of
its conditions, a pattern set for one of its patterns.
-/

namespace TicketTrail

/-- What a condition tests, before negation. -/
inductive Condition.Kind where
  /-- The ticket left `target`, by a move in the given direction if one is given. -/
  | left (target : String) (direction : Option Direction)
  /-- The ticket entered `target`. -/
  | entered (target : String)
  /-- The ticket is in `target`. -/
  | current (target : String)
  /-- The ticket was in `target` before or after some move. -/
  | been (target : String)
  /-- The ticket was not in `target` before or after any move. -/
  | never (target : String)
  /-- The ticket made a move in the given direction. -/
  | moved (direction : Direction)
deriving Repr, DecidableEq

/-- A test of a ticket's history, possibly negated. -/
structure Condition where
  kind : Condition.Kind
  negated : Bool := false
deriving Repr, DecidableEq

/-- The words that name the kinds of condition that have a target. -/
inductive Condition.Word where
  | left
  | entered
  | current
  | been
  | never
deriving Repr, DecidableEq

namespace Condition

namespace Word

/-- Every word, in the order in which messages list them. -/
def all : List Word :=
  [left, entered, current, been, never]

/-- The word as a pattern spells it. -/
def text : Word → String
  | left => "from"
  | entered => "to"
  | current => "in"
  | been => "been"
  | never => "never"

/-- The word that a text spells. -/
def ofText? (s : String) : Option Word :=
  all.find? (·.text == s)

theorem ofText?_text (w : Word) : ofText? w.text = some w := by
  cases w <;> decide

theorem ofText?_eq_some_iff {s : String} {w : Word} : ofText? s = some w ↔ w.text = s := by
  constructor
  · intro h
    simpa using List.find?_some h
  · rintro rfl
    exact ofText?_text w

end Word

namespace Kind

/-- The word that names the kind; a bare direction has none. -/
def word? : Kind → Option Word
  | left _ _ => some .left
  | entered _ => some .entered
  | current _ => some .current
  | been _ => some .been
  | never _ => some .never
  | moved _ => none

/-- The state that the condition is about; a bare direction has none. -/
def target? : Kind → Option String
  | left target _ | entered target | current target | been target | never target => some target
  | moved _ => none

/-- The direction that the condition asks for. -/
def direction? : Kind → Option Direction
  | left _ direction => direction
  | moved direction => some direction
  | _ => none

/-- The condition looks at the current state only. -/
def isCurrentOnly : Kind → Bool
  | current _ => true
  | _ => false

end Kind

/-- The condition with its negation flipped. -/
def negate (c : Condition) : Condition :=
  { c with negated := !c.negated }

@[simp] theorem negate_negate (c : Condition) : c.negate.negate = c := by
  simp [negate]

end Condition

/-- Conditions that must all hold. -/
structure Pattern where
  conditions : NonEmpty Condition
deriving Repr, DecidableEq

/-- Patterns of which one must hold. -/
structure PatternSet where
  patterns : NonEmpty Pattern
deriving Repr, DecidableEq

namespace PatternSet

/-- Every condition of every pattern, in order. -/
def conditions (set : PatternSet) : List Condition :=
  set.patterns.toList.flatMap (·.conditions.toList)

end PatternSet

end TicketTrail
