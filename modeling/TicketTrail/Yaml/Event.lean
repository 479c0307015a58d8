import TicketTrail.Yaml.Token

/-!
# YAML events

What the tokens of a text say, one node or end of a collection at a time. The events of a malformed
text are those before its fault.

The tokens are read by what is expected of them: a stack of expectations says what has to come, and
each step replaces the uppermost by those that come in its place.
-/

namespace TicketTrail.Yaml

/-- A part of a document, in the order of the text. Anchors and aliases have numbers. -/
inductive Event where
  | alias (number : Nat)
  | scalar (value : Scalar) (anchor : Option Nat)
  | sequenceStart (anchor : Option Nat)
  | sequenceEnd
  | mappingStart (anchor : Option Nat)
  | mappingEnd
  | documentEnd
deriving Repr, DecidableEq

/-- The number of the anchor that an event carries. -/
def Event.anchor? : Event → Option Nat
  | scalar _ anchor => anchor
  | sequenceStart anchor => anchor
  | mappingStart anchor => anchor
  | _ => none

/-- What has to come next. -/
inductive Expected where
  | documentStart (isFirst : Bool)
  | documentContent
  | documentEnd
  /-- A node; where `block` holds it may be a block collection, and where `indentless` holds a block
  sequence without indentation of its own. -/
  | node (block indentless : Bool)
  | blockItem
  | indentlessItem
  | blockKey
  | blockValue
  | flowItem (isFirst : Bool)
  /-- The key of a pair that stands in a flow sequence. -/
  | pairKey
  | pairValue
  | pairEnd
  | flowKey (isFirst : Bool)
  | flowValue
  /-- The value of a key that no sign announced. -/
  | flowNoValue
deriving Repr, DecidableEq

/-- A text as far as its tokens have been read. -/
structure Reading where
  tokens : List Token
  expected : List Expected := [.documentStart true]
  /-- What the handles of tags stand for in this document. -/
  handles : List (String × String) := []
  /-- The anchors of this document that were given so far, with their numbers. -/
  anchors : List (String × Nat) := []

/-- What a step comes to. -/
inductive Outcome where
  /-- It gives an event, or none. -/
  | step (event : Option Event) (next : Reading)
  | finished
  | fault

namespace Reading

/-- The node that is left out. -/
def absentNode : Event := .scalar .absent none

/-- Goes on with other tokens and expectations. -/
def goOn (r : Reading) (tokens : List Token) (expected : List Expected) : Reading :=
  { r with tokens, expected := expected ++ r.expected }

/-- Gives an event. -/
def give (r : Reading) (event : Event) (tokens : List Token) (expected : List Expected) : Outcome :=
  .step (some event) (r.goOn tokens expected)

/-- Gives the absent node. -/
def giveAbsent (r : Reading) (tokens : List Token) (expected : List Expected) : Outcome :=
  r.give absentNode tokens expected

/-! ## Documents -/

/-- Handles that stand for something in every document. -/
def knownHandles : List (String × String) := [("!", "!"), ("!!", Scalar.coreTag "")]

/-- A version of YAML that can be read. -/
def isKnownVersion (major minor : Nat) : Bool := major == 1 && (minor == 1 || minor == 2)

/-- Reads directives: the handles that they declare, and the tokens after them. A version is given
once, and so is each handle. -/
def directives (hasVersion : Bool) (handles : List (String × String)) :
    List Token → Option (List (String × String) × List Token)
  | .version major minor :: rest =>
    if hasVersion ∨ ¬ isKnownVersion major minor then none else directives true handles rest
  | .tagHandle handle meaning :: rest =>
    if (handles.lookup handle).isSome then none
    else directives hasVersion ((handle, meaning) :: handles) rest
  | tokens => some (handles, tokens)

/-- The token belongs in front of a document. -/
def opensDocument : Token → Bool
  | .version .. | .tagHandle .. | .documentStart => true
  | _ => false

/-- Starts a document. Only the first one may do without a mark. -/
def startDocument (r : Reading) (isFirst : Bool) : Outcome :=
  match if isFirst then r.tokens else r.tokens.dropWhile (· = .documentEnd) with
  | [] => .fault
  | .streamEnd :: _ => .finished
  | token :: rest =>
    let r := { r with anchors := [] }
    if isFirst ∧ ¬ opensDocument token then
      .step none { r.goOn (token :: rest) [.node true false, .documentEnd] with
        handles := knownHandles }
    else
      match directives false [] (token :: rest) with
      | some (handles, .documentStart :: rest) =>
        .step none { r.goOn rest [.documentContent, .documentEnd] with
          handles := handles ++ knownHandles }
      | _ => .fault

/-- The token ends a document without content. -/
def endsDocument : Token → Bool
  | .version .. | .tagHandle .. | .documentStart | .documentEnd | .streamEnd => true
  | _ => false

/-- Ends a document. -/
def endDocument (r : Reading) : Outcome :=
  let tokens := match r.tokens with
    | .documentEnd :: rest => rest
    | tokens => tokens
  r.give .documentEnd tokens [.documentStart false]

/-! ## Nodes -/

/-- What may stand in front of a node. -/
structure Properties where
  anchor : Option String := none
  tag : Option (String × String) := none

/-- Nothing stands in front of the node. -/
def Properties.isEmpty (p : Properties) : Bool := p.anchor.isNone && p.tag.isNone

/-- Reads an anchor and a tag, in either order. -/
def properties : List Token → Properties × List Token
  | .anchor a :: .tag handle suffix :: rest | .tag handle suffix :: .anchor a :: rest =>
    ({ anchor := some a, tag := some (handle, suffix) }, rest)
  | .anchor a :: rest => ({ anchor := some a }, rest)
  | .tag handle suffix :: rest => ({ tag := some (handle, suffix) }, rest)
  | tokens => ({}, tokens)

/-- The tag that a handle and a suffix make; `none` for a handle that stands for nothing. -/
def tagOf (r : Reading) : String × String → Option String
  | ("", suffix) => some suffix
  | (handle, suffix) => (r.handles.lookup handle).map (· ++ suffix)

/-- Gives a number to an anchor: that of the names known before it. A name that is given again
stands for its last node. -/
def addAnchor (r : Reading) (name : Option String) : Option Nat × Reading :=
  match name with
  | none => (none, r)
  | some name =>
    let number := r.anchors.length
    let others := r.anchors.filter (·.1 ≠ name)
    (some number, { r with anchors := (name, number) :: others })

/-- Reads a node, or its beginning. -/
def readNode (r : Reading) (block indentless : Bool) : Outcome :=
  match r.tokens with
  | .alias name :: rest =>
    match r.anchors.lookup name with
    | some number => r.give (.alias number) rest []
    | none => .fault
  | _ =>
    let (p, tokens) := properties r.tokens
    match p.tag.mapM r.tagOf with
    | none => .fault
    | some tag =>
      let (anchor, next) := r.addAnchor p.anchor
      match tokens with
      | [] => .fault
      | token :: rest =>
        if indentless ∧ token = .blockEntry then
          next.give (.sequenceStart anchor) tokens [.indentlessItem]
        else
          match token with
          | .scalar text style =>
            let value : Scalar := { text, style, tag := tag.filter (· ≠ "!") }
            next.give (.scalar value anchor) rest []
          | .flowSequence => next.give (.sequenceStart anchor) rest [.flowItem true]
          | .flowMapping => next.give (.mappingStart anchor) rest [.flowKey true]
          | _ =>
            if block ∧ token = .blockSequence then
              next.give (.sequenceStart anchor) rest [.blockItem]
            else if block ∧ token = .blockMapping then
              next.give (.mappingStart anchor) rest [.blockKey]
            else if p.isEmpty then .fault
            else next.give (.scalar { Scalar.absent with tag } anchor) tokens []

/-! ## Steps -/

/-- Expects a node, or takes it for absent in front of certain tokens. -/
def nodeUnless (r : Reading) (ends : Token → Bool) (node : Expected) (tokens : List Token)
    (expected : List Expected) : Outcome :=
  match tokens with
  | [] => .fault
  | token :: _ =>
    if ends token then r.giveAbsent tokens expected
    else .step none (r.goOn tokens (node :: expected))

/-- Reads an item of a flow sequence, or the end of the sequence behind a comma. -/
def itemOrEnd (r : Reading) (tokens : List Token) : Outcome :=
  match tokens with
  | .key :: rest => r.give (.mappingStart none) rest [.pairKey]
  | .flowSequenceEnd :: rest => r.give .sequenceEnd rest []
  | _ => .step none (r.goOn tokens [.node false false, .flowItem false])

/-- Reads a key of a flow mapping, or the end of the mapping behind a comma. -/
def keyOrEnd (r : Reading) (tokens : List Token) : Outcome :=
  match tokens with
  | .key :: rest =>
    r.nodeUnless (fun t => t = .value || t = .flowEntry || t = .flowMappingEnd)
      (.node false false) rest [.flowValue]
  | .flowMappingEnd :: rest => r.give .mappingEnd rest []
  | _ => .step none (r.goOn tokens [.node false false, .flowNoValue])

/-- Meets an expectation that was the uppermost; `r` holds the others. -/
def meet (r : Reading) : Expected → Outcome
  | .documentStart isFirst => r.startDocument isFirst
  | .documentContent => r.nodeUnless endsDocument (.node true false) r.tokens []
  | .documentEnd => r.endDocument
  | .node block indentless => r.readNode block indentless
  | .blockItem =>
    match r.tokens with
    | .blockEntry :: rest =>
      r.nodeUnless (fun t => t = .blockEntry || t = .blockEnd) (.node true false) rest [.blockItem]
    | .blockEnd :: rest => r.give .sequenceEnd rest []
    | _ => .fault
  | .indentlessItem =>
    match r.tokens with
    | .blockEntry :: rest =>
      r.nodeUnless (fun t => t = .blockEntry || t = .key || t = .value || t = .blockEnd)
        (.node true false) rest [.indentlessItem]
    | tokens => r.give .sequenceEnd tokens []
  | .blockKey =>
    match r.tokens with
    | .key :: rest =>
      r.nodeUnless (fun t => t = .key || t = .value || t = .blockEnd) (.node true true) rest
        [.blockValue]
    | .blockEnd :: rest => r.give .mappingEnd rest []
    | _ => .fault
  | .blockValue =>
    match r.tokens with
    | .value :: rest =>
      r.nodeUnless (fun t => t = .key || t = .value || t = .blockEnd) (.node true true) rest
        [.blockKey]
    | tokens => r.giveAbsent tokens [.blockKey]
  | .flowItem isFirst =>
    match r.tokens with
    | .flowSequenceEnd :: rest => r.give .sequenceEnd rest []
    | .flowEntry :: rest => if isFirst then .fault else r.itemOrEnd rest
    | tokens => if isFirst then r.itemOrEnd tokens else .fault
  | .pairKey =>
    match r.tokens with
    | .value :: rest | .flowEntry :: rest | .flowSequenceEnd :: rest =>
      r.giveAbsent rest [.pairValue]
    | tokens => .step none (r.goOn tokens [.node false false, .pairValue])
  | .pairValue =>
    match r.tokens with
    | .value :: rest =>
      r.nodeUnless (fun t => t = .flowEntry || t = .flowSequenceEnd) (.node false false) rest
        [.pairEnd]
    | tokens => r.giveAbsent tokens [.pairEnd]
  | .pairEnd => r.give .mappingEnd r.tokens [.flowItem false]
  | .flowKey isFirst =>
    match r.tokens with
    | .flowMappingEnd :: rest => r.give .mappingEnd rest []
    | .flowEntry :: rest => if isFirst then .fault else r.keyOrEnd rest
    | tokens => if isFirst then r.keyOrEnd tokens else .fault
  | .flowValue =>
    match r.tokens with
    | .value :: rest =>
      r.nodeUnless (fun t => t = .flowEntry || t = .flowMappingEnd) (.node false false) rest
        [.flowKey false]
    | tokens => r.giveAbsent tokens [.flowKey false]
  | .flowNoValue => r.giveAbsent r.tokens [.flowKey false]

/-- Takes one step; a fault where the tokens end. -/
def step (r : Reading) : Outcome :=
  match r.tokens, r.expected with
  | _ :: _, e :: expected => { r with expected }.meet e
  | _, _ => .fault

/-- Gives the events that follow, and whether there is no fault after them. -/
def eventsFrom (steps : Nat) (done : List Event) (r : Reading) : List Event × Bool :=
  match steps with
  | 0 => (done.reverse, false)
  | steps + 1 =>
    match r.step with
    | .step event next => eventsFrom steps (event.toList ++ done) next
    | .finished => (done.reverse, true)
    | .fault => (done.reverse, false)

end Reading

namespace Event

/-- The number of steps that a text with as many tokens can take. -/
def stepBound (tokens : Nat) : Nat := 8 * tokens + 8

/-- The events of a text, and whether there is no fault after them. -/
def ofTokens (tokens : List Token) : List Event × Bool :=
  Reading.eventsFrom (stepBound tokens.length) [] { tokens }

end Event

end TicketTrail.Yaml
