import TicketTrail.Pattern.Condition

/-!
# Errors in pattern texts

Why a text is no pattern, and how that is told to the reader.
-/

namespace TicketTrail

/-- Why a text is no pattern. -/
inductive PatternError where
  /-- The text is blank. -/
  | empty (axis : Axis)
  /-- The text holds nothing but separators and blanks. -/
  | noPatterns (axis : Axis)
  /-- A part is no keyword and has no colon. -/
  | invalidSyntax (axis : OrderedAxis) (condition : String)
  /-- What stands before the colon is no type of condition. -/
  | unknownType (axis : OrderedAxis) (found : String)
  /-- The target is blank. -/
  | missingTarget (axis : OrderedAxis) (condition : String)
  /-- A direction is given for a type of condition that takes none. -/
  | directionNotAllowed (condition : String)
  /-- The direction is none of the axis. -/
  | invalidDirection (axis : OrderedAxis) (found : String)
deriving Repr, DecidableEq

namespace PatternError

/-- The direction keywords of an axis, as messages list them. -/
def directionList (axis : OrderedAxis) : List String :=
  axis.directions.map Direction.keyword

/-- The types of condition and the direction keywords of an axis, as messages list them. -/
def typeList (axis : OrderedAxis) : List String :=
  Condition.Word.all.map Condition.Word.text ++ directionList axis

/-- The error as it is told. -/
def message : PatternError → String
  | empty axis => "Empty " ++ axis.name ++ " pattern"
  | noPatterns axis => "No valid " ++ axis.name ++ " patterns found"
  | invalidSyntax axis condition =>
    "Invalid " ++ axis.name ++ " condition syntax: '" ++ condition ++
      "'. Expected format: TYPE:VALUE (e.g. 'in:VALUE', 'not:in:VALUE'). Valid types: " ++
      String.intercalate ", " (typeList axis)
  | unknownType axis found =>
    "Invalid " ++ axis.name ++ " condition type: '" ++ found ++ "'. Valid types: " ++
      String.intercalate ", " (typeList axis)
  | missingTarget axis condition =>
    "Empty " ++ axis.name ++ " name in condition: '" ++ condition ++ "'"
  | directionNotAllowed condition =>
    "Direction modifier only allowed for 'from' patterns, got: '" ++ condition ++ "'"
  | invalidDirection axis found =>
    "Invalid direction: '" ++ found ++ "'. Valid directions: " ++
      String.intercalate ", " (directionList axis)

end PatternError

end TicketTrail
