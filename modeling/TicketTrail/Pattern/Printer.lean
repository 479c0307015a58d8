import TicketTrail.Pattern.Condition

/-!
# The text of a pattern

A condition is written `TYPE:TARGET`, with `:DIRECTION` after it when the ticket must have left the
target that way, or as a bare direction keyword; `not:` stands before a negated one. Conditions are
joined with `+` and patterns with `,`.
-/

namespace TicketTrail

namespace Condition

/-- What stands before a negated condition. -/
def negation : String := "not:"

/-- The text of a condition without its negation. -/
def Kind.text : Kind → String
  | left target (some direction) => Word.text .left ++ ":" ++ target ++ ":" ++ direction.keyword
  | left target none => Word.text .left ++ ":" ++ target
  | entered target => Word.text .entered ++ ":" ++ target
  | current target => Word.text .current ++ ":" ++ target
  | been target => Word.text .been ++ ":" ++ target
  | never target => Word.text .never ++ ":" ++ target
  | moved direction => direction.keyword

/-- The text of a condition. -/
def text (c : Condition) : String :=
  (if c.negated then negation else "") ++ c.kind.text

end Condition

/-- The text of a pattern. -/
def Pattern.text (p : Pattern) : String :=
  String.intercalate "+" (p.conditions.toList.map Condition.text)

/-- The text of a pattern set. -/
def PatternSet.text (set : PatternSet) : String :=
  String.intercalate "," (set.patterns.toList.map Pattern.text)

end TicketTrail
