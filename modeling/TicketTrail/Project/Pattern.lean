import TicketTrail.Pattern.Parser
import TicketTrail.Project.Glob

/-!
# Project patterns

A project pattern lists project names or globs that must all be found among the names of a ticket's
projects; different names may be found on different projects. A set asks for one of its patterns.
Case is ignored. The text uses the separators of the other patterns, and nothing else.
-/

namespace TicketTrail

/-- A project name, or a glob when there is a `*` in it. -/
structure ProjectName where
  raw : String
deriving Repr, DecidableEq

namespace ProjectName

/-- The name is a glob. -/
def isGlob (name : ProjectName) : Bool :=
  name.raw.toList.contains '*'

/-- The name matches the name of a project. -/
def isMatch (name : ProjectName) (project : String) : Bool :=
  if name.isGlob then
    (Glob.ofChars (Text.lowerChars name.raw.toList)).isMatch (Text.lowerChars project.toList)
  else
    Text.lower project == Text.lower name.raw

/-- The name matches one of the names given. -/
def matchesAny (name : ProjectName) (projects : List String) : Bool :=
  projects.any name.isMatch

end ProjectName

/-- Project names that must all be found. -/
structure ProjectPattern where
  names : NonEmpty ProjectName
deriving Repr, DecidableEq

/-- Project patterns of which one must match. -/
structure ProjectPatternSet where
  patterns : NonEmpty ProjectPattern
deriving Repr, DecidableEq

namespace ProjectPattern

/-- The text of the pattern. -/
def text (p : ProjectPattern) : String :=
  String.intercalate "+" (p.names.toList.map ProjectName.raw)

/-- Every name matches one of the names given. -/
def isMatch (p : ProjectPattern) (projects : List String) : Bool :=
  p.names.toList.all fun name => name.matchesAny projects

end ProjectPattern

namespace ProjectPatternSet

/-- The text of the set. -/
def text (set : ProjectPatternSet) : String :=
  String.intercalate "," (set.patterns.toList.map ProjectPattern.text)

/-- Reads a set of project patterns. -/
def parse (text : String) : Except PatternError ProjectPatternSet := do
  let groups ← splitGroups .project text
  return ⟨groups.map fun parts => ⟨parts.map fun part => ⟨String.ofList part⟩⟩⟩

/-- The index of the first pattern that matches the names of a ticket's projects. -/
def findMatch? (set : ProjectPatternSet) (projects : List String) : Option Nat :=
  set.patterns.toList.findIdx? fun p => p.isMatch projects

/-- Some pattern matches the names of a ticket's projects. -/
def isMatch (set : ProjectPatternSet) (projects : List String) : Bool :=
  (set.findMatch? projects).isSome

end ProjectPatternSet

end TicketTrail
