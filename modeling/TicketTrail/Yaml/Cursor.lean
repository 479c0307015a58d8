import TicketTrail.Yaml.Source

/-!
# Places in a YAML text

A cursor is a place in a text: what comes after it, and where it stands.
-/

namespace TicketTrail.Yaml

/-- A place in a text. -/
structure Cursor where
  /-- The characters that come next. -/
  rest : List Char
  /-- The number of characters before. -/
  index : Nat := 0
  line : Nat := 0
  column : Nat := 0

namespace Cursor

/-- The place after the next character. -/
def next (c : Cursor) : Cursor :=
  match c.rest with
  | [] => c
  | x :: rest =>
    if isBreak x then { rest, index := c.index + 1, line := c.line + 1, column := 0 }
    else { rest, index := c.index + 1, line := c.line, column := c.column + 1 }

/-- The place after a number of characters. -/
def skip : Nat → Cursor → Cursor
  | 0, c => c
  | n + 1, c => skip n c.next

/-- The longest run of characters of a class, and the place after it. -/
def span (p : Char → Bool) (c : Cursor) : List Char × Cursor :=
  let run := c.rest.takeWhile p
  (run, c.skip run.length)

/-- The place after the longest run of characters of a class. -/
def skipWhile (p : Char → Bool) (c : Cursor) : Cursor := (c.span p).2

/-- The given character comes next. -/
def sees (x : Char) (c : Cursor) : Bool := c.rest.head? == some x

/-- Skips blanks and a comment after them. -/
def skipComment (c : Cursor) : Cursor :=
  let c := c.skipWhile isBlank
  if c.sees '#' then c.skipWhile (!isBreak ·) else c

/-- Three of a sign stand at the start of the line, with a gap after them. -/
def atMarker (sign : Char) (c : Cursor) : Bool :=
  c.column == 0 && c.rest.take 3 == [sign, sign, sign] && gapNext (c.rest.drop 3)

/-- A mark between documents stands here. -/
def atDivider (c : Cursor) : Bool := c.atMarker '-' || c.atMarker '.'

end Cursor

end TicketTrail.Yaml
