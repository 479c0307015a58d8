import TicketTrail.Yaml.Cursor
import TicketTrail.Yaml.Token

/-!
# Anchors, tags and directives

Readers for the tokens that begin with `&`, `*`, `!` and `%`. Each gives the token and the place
after it, and `none` when it is malformed; `steps` bounds the characters that it takes.
-/

namespace TicketTrail.Yaml

/-! ## Anchors and aliases -/

/-- A character that may follow the name of an anchor without a gap. -/
def endsName (c : Char) : Bool := isGap c || "?:,]\x7d%@\x60".contains c

/-- Reads the name of an anchor behind its sign. -/
def anchorName (c : Cursor) : Option (String × Cursor) :=
  let (name, c) := c.next.span isWord
  if name.isEmpty ∨ ¬ c.rest.head?.all endsName then none else some (String.ofList name, c)

/-! ## Tags -/

/-- A character that a tag may hold as it is; `wide` where brackets and commas may stand too. -/
def isTagChar (wide : Bool) (c : Char) : Bool :=
  isWord c || ";/?:@&=+$.!~*'()".contains c || (wide && ",[]".contains c)

/-- The byte that `%` and two hexadecimal digits spell. -/
def escapedByte? : List Char → Option Nat
  | '%' :: a :: b :: _ => natInBase? 16 [a, b]
  | _ => none

/-- The number of bytes of a character, by the first of them. -/
def byteCount? (first : Nat) : Option Nat :=
  if first < 0x80 then some 1
  else if first < 0xC0 then none
  else if first < 0xE0 then some 2
  else if first < 0xF0 then some 3
  else if first < 0xF8 then some 4
  else none

/-- Reads the text of a tag, one character for each byte. `more` is the number of bytes that the
character that was begun still wants. -/
def tagText (steps : Nat) (wide : Bool) (more : Nat) (done : List Char) (c : Cursor) :
    Option (List Char × Cursor) :=
  match steps with
  | 0 => none
  | steps + 1 =>
    match escapedByte? c.rest with
    | some byte =>
      let wanted? :=
        if more = 0 then byteCount? byte
        else if 0x80 ≤ byte ∧ byte < 0xC0 then some more
        else none
      match wanted? with
      | some wanted => tagText steps wide (wanted - 1) (Char.ofNat byte :: done) (c.skip 3)
      | none => none
    | none =>
      match c.rest with
      | x :: _ =>
        if more = 0 ∧ isTagChar wide x then tagText steps wide 0 (x :: done) c.next
        else if more ≠ 0 ∨ x = '%' then none
        else some (done.reverse, c)
      | [] => if more = 0 then some (done.reverse, c) else none

/-- The text of a tag ends before a zero byte. -/
def tagString (text : List Char) : String := String.ofList (text.takeWhile (· ≠ '\x00'))

/-- Reads a tag text in which there must be something. -/
def tagText? (steps : Nat) (wide : Bool) (c : Cursor) : Option (String × Cursor) :=
  match tagText steps wide 0 [] c with
  | some (x :: text, c) => some (tagString (x :: text), c)
  | _ => none

/-- Reads a handle: `!`, `!!`, or a word behind `!`, with or without `!` at its end. -/
def handle? (c : Cursor) : Option (List Char × Cursor) :=
  if c.sees '!' then
    let (word, c) := c.next.span isWord
    if c.sees '!' then some ('!' :: word ++ ['!'], c.next) else some ('!' :: word, c)
  else none

/-- Reads a tag. A word behind `!` that no `!` ends is the front of the tag itself, and `!` alone is
a tag of its own. -/
def tagToken (steps : Nat) (inFlow : Bool) (c : Cursor) : Option (Token × Cursor) := do
  let (token, c) ←
    if c.rest.take 2 = ['!', '<'] then do
      let (text, c) ← tagText? steps true (c.skip 2)
      if c.sees '>' then some (Token.tag "" text, c.next) else none
    else do
      let (handle, c) ← handle? c
      if 1 < handle.length ∧ handle.getLast? = some '!' then do
        let (suffix, c) ← tagText? steps false c
        some (Token.tag (String.ofList handle) suffix, c)
      else do
        let (text, c) ← tagText steps false 0 [] c
        let suffix := tagString (handle.drop 1 ++ text)
        some (if suffix.isEmpty then Token.tag "" "!" else Token.tag "!" suffix, c)
  if gapNext c.rest ∨ (inFlow ∧ c.sees ',') then some (token, c) else none

/-! ## Directives -/

/-- The greatest number of digits in a part of a version. -/
def versionDigits : Nat := 9

/-- Reads a part of a version. -/
def versionPart (c : Cursor) : Option (Nat × Cursor) := do
  let (digits, c) := c.span Char.isDigit
  if digits.length ≤ versionDigits then
    let n ← natInBase? 10 digits
    some (n, c)
  else none

/-- Reads a directive and the rest of its line. -/
def directive (steps : Nat) (c : Cursor) : Option (Token × Cursor) := do
  let (name, c) := c.next.span isWord
  if !gapNext c.rest then none
  else
    let c := c.skipWhile isBlank
    let (token, c) ←
      if name = "YAML".toList then do
        let (major, c) ← versionPart c
        if !c.sees '.' then none
        else
          let (minor, c) ← versionPart c.next
          some (Token.version major minor, c)
      else if name = "TAG".toList then do
        let (handle, c) ← handle? c
        let isClosed := handle.length = 1 ∨ handle.getLast? = some '!'
        if ¬ isClosed ∨ ¬ c.rest.head?.any isBlank then none
        else
          let (meaning, c) ← tagText? steps true (c.skipWhile isBlank)
          if gapNext c.rest then some (Token.tagHandle (String.ofList handle) meaning, c) else none
      else none
    let c := c.skipComment
    if c.rest.head?.all isBreak then some (token, c.next) else none

end TicketTrail.Yaml
