/-!
# The text of a YAML file

Which characters a YAML text may hold, and the one form that its line breaks take. A text is taken
in blocks; a block with a character that it may not hold cuts the text off.
-/

namespace TicketTrail.Yaml

/-- A space or a tab. -/
def isBlank (c : Char) : Bool := c = ' ' || c = '\t'

/-- A character that ends a line, once the line breaks have one form. -/
def isBreak (c : Char) : Bool := c = '\n' || c = '\u2028' || c = '\u2029'

/-- A blank or a line break. -/
def isGap (c : Char) : Bool := isBlank c || isBreak c

/-- A gap, or nothing, comes next. -/
def gapNext (s : List Char) : Bool := s.head?.all isGap

/-- A letter, a digit, `-` or `_`, of which names consist. -/
def isWord (c : Char) : Bool := c.isAlphanum || c = '-' || c = '_'

/-- The character may stand in a YAML text. -/
def isPrintable (c : Char) : Bool :=
  let n := c.toNat
  n == 0x9 || n == 0xA || n == 0xD || (0x20 ≤ n && n ≤ 0x7E) || n == 0x85 ||
    (0xA0 ≤ n && n ≠ 0xFFFE && n ≠ 0xFFFF)

/-- The text of a file as it is read. -/
structure Source where
  chars : List Char
  /-- The text goes on after these characters, but cannot be read any further. -/
  isCut : Bool

namespace Source

/-- The number of bytes that are taken at a time. -/
def blockSize : Nat := 16384

/-- Takes the characters of whole blocks. `done` are those of the blocks before, and `block` those
of the block that has `room` bytes left; both last first. -/
def blocks (done block : List Char) (room : Nat) : List Char → Source
  | [] => { chars := (block ++ done).reverse, isCut := false }
  | c :: rest =>
    if c.utf8Size ≤ room then
      if isPrintable c then blocks done (c :: block) (room - c.utf8Size) rest
      else { chars := done.reverse, isCut := true }
    else if isPrintable c then blocks (block ++ done) [c] (blockSize - c.utf8Size) rest
    else { chars := (block ++ done).reverse, isCut := true }

/-- Writes every line break as one line feed, except for the separators of lines and paragraphs. -/
def unifyBreaks (done : List Char) : List Char → List Char
  | [] => done.reverse
  | '\r' :: '\n' :: rest => unifyBreaks ('\n' :: done) rest
  | c :: rest => unifyBreaks ((if c = '\r' ∨ c = '\u0085' then '\n' else c) :: done) rest

/-- The text of a file. A byte order mark in front takes room, but is no part of the text. -/
def ofString (text : String) : Source :=
  let source := match text.toList with
    | '\uFEFF' :: rest => blocks [] [] (blockSize - '\uFEFF'.utf8Size) rest
    | chars => blocks [] [] blockSize chars
  { source with chars := unifyBreaks [] source.chars }

end Source

end TicketTrail.Yaml
