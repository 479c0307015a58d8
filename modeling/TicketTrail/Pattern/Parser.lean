import TicketTrail.Pattern.Error
import TicketTrail.Pattern.Printer
import TicketTrail.Text.Split

/-!
# Reading patterns

    pattern   := group (',' group)*
    group     := part ('+' part)*
    part      := ['not:'] body
    body      := direction | type ':' target [':' direction]

A `direction` is one of the axis' two keywords, a `type` one of `from`, `to`, `in`, `been` and
`never`; only `from` takes a direction after its target. Blanks around every piece are dropped, and
so are blank parts and groups without a part, but some part must be left.

The ranks of a scale play no role in reading: a text is read for an axis.
-/

namespace TicketTrail

/-- The parts of a group: trimmed, and without the blank ones. -/
def groupParts (group : List Char) : List (List Char) :=
  ((group.splitOn '+').map Text.trimChars).filter (!·.isEmpty)

/-- The groups of a pattern text that have a part, with their parts. -/
def textGroups (text : List Char) : List (NonEmpty (List Char)) :=
  (text.splitOn ',').filterMap fun group => NonEmpty.ofList? (groupParts group)

/-- Cuts a pattern text into groups and these into parts. -/
def splitGroups (axis : Axis) (text : String) :
    Except PatternError (NonEmpty (NonEmpty (List Char))) :=
  if Text.allBlank text then .error (.empty axis)
  else
    match NonEmpty.ofList? (textGroups text.toList) with
    | none => .error (.noPatterns axis)
    | some groups => .ok groups

namespace Condition

/-- The kind of condition that a word names. The direction, if there is one, has not been read
yet; `body` is the whole text it stands in. -/
def Kind.ofParts (axis : OrderedAxis) (body : List Char) (word : Word) (target : String)
    (direction : Option (List Char)) : Except PatternError Kind :=
  match word, direction with
  | .left, none => .ok (.left target none)
  | .left, some keyword =>
    match axis.keyword? (String.ofList keyword) with
    | some d => .ok (.left target (some d))
    | none => .error (.invalidDirection axis (String.ofList keyword))
  | .entered, none => .ok (.entered target)
  | .current, none => .ok (.current target)
  | .been, none => .ok (.been target)
  | .never, none => .ok (.never target)
  | _, some _ => .error (.directionNotAllowed (String.ofList body))

/-- Reads what follows the type: a target and perhaps a direction. -/
def splitTarget (s : List Char) : List Char × Option (List Char) :=
  match Text.cutAt? ':' s with
  | some (target, direction) => (Text.trimChars target, some (Text.trimChars direction))
  | none => (Text.trimChars s, none)

/-- Reads a condition without its negation. -/
def Kind.parse (axis : OrderedAxis) (body : List Char) : Except PatternError Kind :=
  match axis.keyword? (String.ofList body) with
  | some direction => .ok (.moved direction)
  | none =>
    match Text.cutAt? ':' body with
    | none => .error (.invalidSyntax axis (String.ofList body))
    | some (type, rest) =>
      match Word.ofText? (String.ofList (Text.trimChars type)) with
      | none => .error (.unknownType axis (String.ofList (Text.trimChars type)))
      | some word =>
        let (target, direction) := splitTarget rest
        if target.isEmpty then .error (.missingTarget axis (String.ofList body))
        else Kind.ofParts axis body word (String.ofList target) direction

/-- Takes the negation off a part: whether there is one, and the body. -/
def splitNegation (part : List Char) : Bool × List Char :=
  match Text.dropStart? negation.toList part with
  | some rest => (true, Text.trimChars rest)
  | none => (false, part)

/-- Reads a part as a condition. -/
def parse (axis : OrderedAxis) (part : List Char) : Except PatternError Condition := do
  let (negated, body) := splitNegation part
  let kind ← Kind.parse axis body
  return { kind, negated }

end Condition

namespace PatternSet

/-- Reads a pattern text for an axis. Of several faulty parts the first one is reported. -/
def parse (axis : OrderedAxis) (text : String) : Except PatternError PatternSet := do
  let groups ← splitGroups (.ordered axis) text
  let patterns ← groups.mapM fun parts => do
    let conditions ← parts.mapM (Condition.parse axis)
    return Pattern.mk conditions
  return ⟨patterns⟩

end PatternSet

end TicketTrail
