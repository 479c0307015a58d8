import TicketTrail.Yaml.Scalar

/-!
# YAML tokens

The smallest parts of a YAML text. Some of them no sign stands for: indentation opens and closes
block collections, and a colon makes what stands before it a key.
-/

namespace TicketTrail.Yaml

/-- A part of a YAML text. -/
inductive Token where
  /-- The version of YAML that the next document says it has. -/
  | version (major minor : Nat)
  /-- What a handle stands for in the tags of the next document. -/
  | tagHandle (handle meaning : String)
  | documentStart
  | documentEnd
  | streamEnd
  | blockSequence
  | blockMapping
  /-- The end of a block collection. -/
  | blockEnd
  | flowSequence
  | flowSequenceEnd
  | flowMapping
  | flowMappingEnd
  | blockEntry
  | flowEntry
  | key
  | value
  | anchor (name : String)
  | alias (name : String)
  | tag (handle suffix : String)
  | scalar (text : String) (style : Style)
deriving Repr, DecidableEq

end TicketTrail.Yaml
