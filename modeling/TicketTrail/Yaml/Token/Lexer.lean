import TicketTrail.Yaml.Scalar.Block
import TicketTrail.Yaml.Scalar.Flow
import TicketTrail.Yaml.Token.Name

/-!
# From a text to its tokens

Indentation and keys need a memory. A block collection begins where the column grows and ends where
it shrinks. Whether a scalar or a collection is a key shows only at the colon behind it, on the same
line and not far away; until then neither it nor a token after it is settled. Where a text is
malformed, the tokens that were settled before are all that there is.
-/

namespace TicketTrail.Yaml

/-- Where a key may have begun. -/
structure KeyStart where
  /-- The number of tokens before it. -/
  number : Nat
  place : Cursor
  /-- The number of flow collections around it. -/
  depth : Nat
  /-- Nothing but a key can stand there. -/
  isRequired : Bool

/-- A text as far as its tokens are known. -/
structure Lexer where
  place : Cursor
  /-- The number of characters of the text, which bounds every reader. -/
  size : Nat
  /-- The tokens so far, last first. -/
  tokens : List Token := []
  count : Nat := 0
  /-- The number of tokens that nothing behind them can change. -/
  settled : Nat := 0
  /-- The columns of the open block collections, innermost first. -/
  indents : List Nat := []
  /-- The number of open flow collections. -/
  depth : Nat := 0
  /-- Where keys may have begun, at most one for each depth; the deepest first. -/
  keyStarts : List KeyStart := []
  /-- A key may begin here. -/
  keyAllowed : Bool := true

namespace Lexer

/-- The text of a file before its first token. -/
def ofSource (source : Source) : Lexer where
  place := { rest := source.chars }
  size := source.chars.length + 1

/-- The place is in a flow collection. -/
def inFlow (l : Lexer) : Bool := l.depth != 0

/-- The least column of what belongs into the innermost block collection. -/
def least (l : Lexer) : Nat :=
  match l.indents with
  | [] => 0
  | indent :: _ => indent + 1

/-- Adds a token. -/
def push (token : Token) (l : Lexer) : Lexer :=
  { l with tokens := token :: l.tokens, count := l.count + 1 }

/-- Puts a token behind the given number of tokens. -/
def insert (number : Nat) (token : Token) (l : Lexer) : Lexer :=
  let (after, before) := l.tokens.splitAt (l.count - number)
  { l with tokens := after ++ token :: before, count := l.count + 1 }

/-- Adds a token that signs stand for. -/
def pushTo (token : Token) (place : Cursor) (l : Lexer) : Lexer :=
  { l.push token with place }

/-! ## Indentation -/

/-- Begins a block collection at a column, unless it is open there; its token goes behind the given
number of tokens. Flow collections hold no blocks. -/
def indentTo (column number : Nat) (token : Token) (l : Lexer) : Lexer :=
  if l.inFlow ∨ column < l.least then l
  else { l.insert number token with indents := column :: l.indents }

/-- Ends the block collections that the class holds of, from the innermost on. -/
def closeBlocks (p : Nat → Bool) (l : Lexer) : Lexer :=
  if l.inFlow then l
  else
    let closed := (l.indents.takeWhile p).length
    { l with
      tokens := List.replicate closed .blockEnd ++ l.tokens
      count := l.count + closed
      indents := l.indents.drop closed }

/-! ## Keys -/

/-- The greatest distance from the start of a key to its colon. -/
def keyLength : Nat := 1024

/-- The place is too far away for a key to have begun there. -/
def isStale (here : Cursor) (start : KeyStart) : Bool :=
  start.place.line < here.line || start.place.index + keyLength < here.index

/-- Forgets the places that are too far away for a key; `none` if there had to be one. -/
def dropStale (l : Lexer) : Option Lexer :=
  if l.keyStarts.any fun start => isStale l.place start && start.isRequired then none
  else some { l with keyStarts := l.keyStarts.filter (!isStale l.place ·) }

/-- The place at this depth where a key may have begun, and the other places. -/
def keyStart? (l : Lexer) : Option (KeyStart × List KeyStart) :=
  match l.keyStarts with
  | start :: others => if start.depth = l.depth then some (start, others) else none
  | [] => none

/-- What comes next ends the key that may have begun. -/
def dropStart (l : Lexer) : Option Lexer :=
  match l.keyStart? with
  | some (start, others) => if start.isRequired then none else some { l with keyStarts := others }
  | none => some l

/-- Here a key may begin, if one is allowed. -/
def saveStart (l : Lexer) : Option Lexer := do
  if l.keyAllowed then
    let isRequired := !l.inFlow && l.indents.head? == some l.place.column
    let l ← l.dropStart
    let start : KeyStart := { number := l.count, place := l.place, depth := l.depth, isRequired }
    return { l with keyStarts := start :: l.keyStarts }
  else return l

/-- The tokens before all places where a key may have begun are settled. -/
def settle (l : Lexer) : Lexer :=
  { l with settled := l.keyStarts.foldl (fun n start => min n start.number) l.count }

/-! ## Single tokens

Each of these reads one token, and those that it brings about; `none` if it is malformed. -/

/-- Reads a directive. -/
def readDirective (l : Lexer) : Option Lexer := do
  let l ← (l.closeBlocks fun _ => true).dropStart
  let (token, place) ← directive l.size l.place
  return { l.pushTo token place with keyAllowed := false }

/-- Reads a mark between documents. -/
def readDivider (token : Token) (l : Lexer) : Option Lexer := do
  let l ← (l.closeBlocks fun _ => true).dropStart
  return { l.pushTo token (l.place.skip 3) with keyAllowed := false }

/-- Reads the end of the text. -/
def readEnd (l : Lexer) : Option Lexer := do
  let l ← (l.closeBlocks fun _ => true).dropStart
  return { l.push .streamEnd with keyAllowed := false }

/-- Reads the start of a flow collection. -/
def openFlow (token : Token) (l : Lexer) : Option Lexer := do
  let l ← l.saveStart
  return { l.pushTo token l.place.next with depth := l.depth + 1, keyAllowed := true }

/-- Reads the end of a flow collection. -/
def closeFlow (token : Token) (l : Lexer) : Option Lexer := do
  let l ← l.dropStart
  return { l.pushTo token l.place.next with depth := l.depth - 1, keyAllowed := false }

/-- Reads a comma. -/
def readComma (l : Lexer) : Option Lexer := do
  let l ← l.dropStart
  return { l.pushTo .flowEntry l.place.next with keyAllowed := true }

/-- Reads the sign of an item of a block sequence. -/
def readDash (l : Lexer) : Option Lexer := do
  if !l.inFlow && !l.keyAllowed then none
  else
    let l ← (l.indentTo l.place.column l.count .blockSequence).dropStart
    return { l.pushTo .blockEntry l.place.next with keyAllowed := true }

/-- Reads the sign of a key. -/
def readKey (l : Lexer) : Option Lexer := do
  if !l.inFlow && !l.keyAllowed then none
  else
    let l ← (l.indentTo l.place.column l.count .blockMapping).dropStart
    return { l.pushTo .key l.place.next with keyAllowed := !l.inFlow }

/-- Reads a colon. Where a key may have begun, one has. -/
def readColon (l : Lexer) : Option Lexer :=
  match l.keyStart? with
  | some (start, others) =>
    let l := (l.insert start.number .key).indentTo start.place.column start.number .blockMapping
    some { l.pushTo .value l.place.next with keyStarts := others, keyAllowed := false }
  | none =>
    if !l.inFlow && !l.keyAllowed then none
    else
      let l := l.indentTo l.place.column l.count .blockMapping
      some { l.pushTo .value l.place.next with keyAllowed := !l.inFlow }

/-- Reads an anchor or an alias. -/
def readAnchor (token : String → Token) (l : Lexer) : Option Lexer := do
  let l ← l.saveStart
  let (name, place) ← anchorName l.place
  return { l.pushTo (token name) place with keyAllowed := false }

/-- Reads a tag. -/
def readTag (l : Lexer) : Option Lexer := do
  let l ← l.saveStart
  let (token, place) ← tagToken l.size l.inFlow l.place
  return { l.pushTo token place with keyAllowed := false }

/-- Reads a block scalar. -/
def readBlock (l : Lexer) : Option Lexer := do
  let l ← l.dropStart
  let (found, place) ← block l.size l.least l.place
  return { l.pushTo (.scalar found.text found.style) place with keyAllowed := true }

/-- Reads a quoted scalar. -/
def readQuoted (l : Lexer) : Option Lexer := do
  let l ← l.saveStart
  let (text, place) ← quoted l.size l.place
  return { l.pushTo (.scalar text .quoted) place with keyAllowed := false }

/-- Reads a plain scalar. -/
def readPlain (l : Lexer) : Option Lexer := do
  let l ← l.saveStart
  let found ← plain l.size l.inFlow l.least l.place
  return { l.pushTo (.scalar found.text .plain) found.place with keyAllowed := found.endsLine }

/-! ## All tokens -/

/-- Skips blanks, comments and line breaks. Where a key may begin a tab is no blank. A byte order
mark may stand at the start of a line, and takes a column there. -/
def skipGap (steps : Nat) (l : Lexer) : Lexer :=
  match steps with
  | 0 => l
  | steps + 1 =>
    let c := if l.place.column = 0 ∧ l.place.sees '\uFEFF' then l.place.next else l.place
    let c := c.skipWhile fun x => x = ' ' || (x = '\t' && (l.inFlow || !l.keyAllowed))
    let c := if c.sees '#' then c.skipWhile (!isBreak ·) else c
    if c.rest.head?.any isBreak then
      skipGap steps { l with place := c.next, keyAllowed := l.keyAllowed || !l.inFlow }
    else { l with place := c }

/-- Reads the token that begins with the sign `c`. -/
def readSign (c : Char) (l : Lexer) : Option Lexer :=
  let isAlone := gapNext (l.place.rest.drop 1)
  match c with
  | '[' => l.openFlow .flowSequence
  | '{' => l.openFlow .flowMapping
  | ']' => l.closeFlow .flowSequenceEnd
  | '}' => l.closeFlow .flowMappingEnd
  | ',' => l.readComma
  | '*' => l.readAnchor .alias
  | '&' => l.readAnchor .anchor
  | '!' => l.readTag
  | '\'' | '"' => l.readQuoted
  | '|' | '>' => if l.inFlow then none else l.readBlock
  | '-' => if isAlone then l.readDash else l.readPlain
  | '?' => if isAlone || l.inFlow then l.readKey else l.readPlain
  | ':' => if isAlone || l.inFlow then l.readColon else l.readPlain
  | '%' | '@' | '\x60' | '\t' => none
  | _ => l.readPlain

/-- Reads the next token, and those that it brings about. -/
def read (l : Lexer) : Option Lexer := do
  let l ← (l.skipGap l.size).dropStale
  let l := l.closeBlocks (l.place.column < ·)
  match l.place.rest with
  | [] => l.readEnd
  | c :: _ =>
    if c = '%' ∧ l.place.column = 0 then l.readDirective
    else if l.place.atMarker '-' then l.readDivider .documentStart
    else if l.place.atMarker '.' then l.readDivider .documentEnd
    else l.readSign c

/-- The tokens that are settled, in order. -/
def settledTokens (l : Lexer) : List Token :=
  (l.tokens.drop (l.count - l.settled)).reverse

/-- Reads all tokens of a text; of one that is cut off, those that do not reach its end. -/
def readAll (isCut : Bool) (steps : Nat) (l : Lexer) : List Token :=
  match steps with
  | 0 => l.settledTokens
  | steps + 1 =>
    match l.read with
    | none => l.settledTokens
    | some next =>
      if isCut ∧ next.place.rest.isEmpty then l.settledTokens
      else if next.tokens.head? = some .streamEnd then next.tokens.reverse
      else
        match next.dropStale with
        | none => l.settledTokens
        | some next => readAll isCut steps next.settle

end Lexer

namespace Token

/-- The tokens of a text. The last of them is the end of the text, unless the text is malformed. -/
def ofSource (source : Source) : List Token :=
  let l := Lexer.ofSource source
  l.readAll source.isCut l.size

end Token

end TicketTrail.Yaml
