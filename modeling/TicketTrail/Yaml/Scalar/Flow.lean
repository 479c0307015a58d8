import TicketTrail.Yaml.Cursor
import TicketTrail.Yaml.Scalar

/-!
# Plain and quoted scalars

Readers for scalars whose lines are folded: a gap with a line break in it stands for a space, or for
the breaks after the first. Each reader gives the text and the place after it, and `none` when the
text is malformed; `steps` bounds the characters that it takes.
-/

namespace TicketTrail.Yaml

/-- What a gap inside a scalar stands for. -/
def foldGap (gap : List Char) : List Char :=
  match gap.dropWhile isBlank with
  | [] => gap
  | first :: rest =>
    let others := rest.filter isBreak
    if first ≠ '\n' then first :: others
    else if others.isEmpty then [' ']
    else others

/-! ## Plain scalars -/

/-- A character that separates or encloses the parts of a flow collection. -/
def isFlowSign (c : Char) : Bool := c = ',' || c = '[' || c = ']' || c = '{' || c = '}'

/-- The word of a plain scalar that starts here, which may be empty; `done` is the part read so far,
last character first. It ends before a gap and before a colon with a gap after it. In a flow
collection it ends before each of its signs, and a colon must not stand right before one. -/
def plainWord (inFlow : Bool) (done : List Char) : List Char → Option (List Char)
  | [] => some done.reverse
  | c :: rest =>
    if isGap c then some done.reverse
    else if inFlow ∧ c = ':' ∧ rest.head?.any (fun d => isFlowSign d || d = '?') then none
    else if (c = ':' ∧ gapNext rest) ∨ (inFlow ∧ isFlowSign c) then some done.reverse
    else plainWord inFlow (c :: done) rest

/-- A tab stands in a line of the gap before the column at which a line must start. -/
def tabIndents (least : Nat) (gap : List Char) : Bool :=
  ((gap.splitOnP isBreak).drop 1).any fun line => (line.take least).contains '\t'

/-- A plain scalar that was read. -/
structure Plain where
  text : String
  /-- A line break comes after it. -/
  endsLine : Bool
  place : Cursor

/-- Reads on in a plain scalar: `text` is what was read before the gap that ends here. Lines after
the first start at column `least` or behind it, unless the scalar is in a flow collection. -/
def plainFrom (steps : Nat) (inFlow : Bool) (least : Nat) (text : String) (gap : List Char)
    (c : Cursor) : Option Plain :=
  match steps with
  | 0 => none
  | steps + 1 =>
    let before : Plain := { text, endsLine := gap.any isBreak, place := c }
    if c.atDivider ∨ c.sees '#' then some before
    else
      match plainWord inFlow [] c.rest with
      | none => none
      | some [] => some before
      | some word =>
        let text := text ++ String.ofList (foldGap gap ++ word)
        let (gap, c) := (c.skip word.length).span isGap
        if tabIndents least gap then none
        else if gap.isEmpty ∨ (¬ inFlow ∧ c.column < least) then
          some { text, endsLine := gap.any isBreak, place := c }
        else plainFrom steps inFlow least text gap c

/-- Reads a plain scalar. -/
def plain (steps : Nat) (inFlow : Bool) (least : Nat) (c : Cursor) : Option Plain :=
  plainFrom steps inFlow least "" [] c

/-! ## Quoted scalars -/

/-- The character that a one-letter escape in double quotes stands for. -/
def letterEscape? (c : Char) : Option Char :=
  [('0', '\x00'), ('a', '\x07'), ('b', '\x08'), ('t', '\t'), ('\t', '\t'), ('n', '\n'),
    ('v', '\x0b'), ('f', '\x0c'), ('r', '\r'), ('e', '\x1b'), (' ', ' '), ('"', '"'), ('/', '/'),
    ('\\', '\\'), ('N', '\u0085'), ('_', '\u00a0'), ('L', '\u2028'), ('P', '\u2029')].lookup c

/-- The number of hexadecimal digits that follow the letter of an escape. -/
def escapeLength? (c : Char) : Option Nat :=
  [('x', 2), ('u', 4), ('U', 8)].lookup c

/-- The character that the escape behind a backslash stands for, and the length of the escape. -/
def escape? : List Char → Option (Char × Nat)
  | [] => none
  | c :: rest =>
    match escapeLength? c with
    | none => (letterEscape? c).map fun d => (d, 1)
    | some n =>
      if rest.length < n then none
      else
        match natInBase? 16 (rest.take n) with
        | some code => if code.isValidChar then some (Char.ofNat code, n + 1) else none
        | none => none

/-- Reads on in a scalar between quotes. In single quotes a quote is written twice, in double quotes
a backslash begins an escape; before a line break it makes the break and the blanks after it go. -/
def quotedFrom (steps : Nat) (quote : Char) (text : String) (c : Cursor) :
    Option (String × Cursor) :=
  match steps, c.rest with
  | 0, _ => none
  | _, [] => none
  | steps + 1, x :: rest =>
    if c.atDivider then none
    else if isGap x then
      let (gap, c) := c.span isGap
      quotedFrom steps quote (text ++ String.ofList (foldGap gap)) c
    else if x = quote then
      if x = '\'' ∧ rest.head? = some '\'' then quotedFrom steps quote (text.push x) (c.skip 2)
      else some (text, c.next)
    else if x = '\\' ∧ quote = '"' then
      if rest.head?.any isBreak then
        let (gap, c) := (c.skip 2).span isGap
        quotedFrom steps quote (text ++ String.ofList (gap.filter isBreak)) c
      else
        match escape? rest with
        | some (d, n) => quotedFrom steps quote (text.push d) (c.skip (n + 1))
        | none => none
    else quotedFrom steps quote (text.push x) c.next

/-- Reads a scalar between quotes, from its opening quote on. -/
def quoted (steps : Nat) (c : Cursor) : Option (String × Cursor) :=
  match c.rest with
  | quote :: _ => quotedFrom steps quote "" c.next
  | [] => none

end TicketTrail.Yaml
