import TicketTrail.Console
import TicketTrail.Pattern.Parser
import TicketTrail.Project.Pattern

/-!
# Checking patterns

A pattern text is checked by reading it and printing it in its normal form, one pattern of the set
per line.
-/

namespace TicketTrail

/-- The normal form of a pattern text. -/
structure NormalForm where
  /-- The text of the whole set. -/
  text : String
  /-- The texts of its patterns. -/
  groups : List String
deriving Repr, DecidableEq

namespace NormalForm

/-- The normal form of a set of patterns. -/
def ofSet (set : PatternSet) : NormalForm :=
  ⟨set.text, set.patterns.toList.map Pattern.text⟩

/-- The normal form of a set of project patterns. -/
def ofProjects (set : ProjectPatternSet) : NormalForm :=
  ⟨set.text, set.patterns.toList.map ProjectPattern.text⟩

/-- The normal form of a pattern text of the given axis. -/
def parse (axis : Axis) (text : String) : Except PatternError NormalForm :=
  match axis with
  | .ordered axis => (PatternSet.parse axis text).map ofSet
  | .project => (ProjectPatternSet.parse text).map ofProjects

end NormalForm

/-- A text that is no pattern of the given axis. -/
structure CheckError where
  axis : Axis
  cause : PatternError
deriving Repr, DecidableEq

/-- The error as it is told. -/
def CheckError.message (e : CheckError) : String :=
  "Invalid " ++ e.axis.name ++ " pattern: " ++ e.cause.message

/-- A check as it is asked for. -/
structure CheckRequest where
  axis : Axis
  pattern : String
deriving Repr, DecidableEq

/-- Carries out a check. -/
def CheckRequest.run (console : Console) (request : CheckRequest) : Step CheckError Unit := do
  .print (console.remark "check"
    ("Parsing " ++ request.axis.name ++ " pattern: " ++ request.pattern))
  let form ← .silent ((NormalForm.parse request.axis request.pattern).mapError
    (CheckError.mk request.axis))
  .print (console.remark "check" (toString form.groups.length ++ " group(s)"))
  .print (console.report form.groups (.object [("axis", .string request.axis.name),
    ("groups", .strings form.groups), ("pattern", .string form.text)]))

end TicketTrail
