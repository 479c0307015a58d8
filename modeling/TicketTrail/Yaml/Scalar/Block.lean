import TicketTrail.Yaml.Cursor
import TicketTrail.Yaml.Scalar

/-!
# Block scalars

Readers for scalars that are written as a block of deeper lines. A header says how deep the lines
are, if the first of them does not, and what becomes of the line breaks at the end.
-/

namespace TicketTrail.Yaml

/-- What becomes of the line breaks at the end of a block. -/
inductive Chomping where
  /-- None is kept. -/
  | strip
  /-- The first is kept. -/
  | clip
  /-- All are kept. -/
  | keep
deriving Repr, DecidableEq

/-- The sign for a chomping. -/
def Chomping.ofSign? : Char → Option Chomping
  | '-' => some strip
  | '+' => some keep
  | _ => none

/-- What the header of a block says: its chomping, and how deep its lines are. -/
def blockHeader (signs : List Char) : Option (Chomping × Option Nat) :=
  let depth? (c : Char) : Option Nat :=
    if '1' ≤ c ∧ c ≤ '9' then some (c.toNat - '0'.toNat) else none
  match signs with
  | [] => some (.clip, none)
  | [x] =>
    match Chomping.ofSign? x with
    | some chomping => some (chomping, none)
    | none => (depth? x).map fun n => (.clip, some n)
  | [x, y] =>
    match Chomping.ofSign? x with
    | some chomping => (depth? y).map fun n => (chomping, some n)
    | none =>
      match depth? x, Chomping.ofSign? y with
      | some n, some chomping => some (chomping, some n)
      | _, _ => none
  | _ => none

/-- The empty lines in a block. -/
structure BlockGap where
  breaks : List Char := []
  /-- The greatest column that was reached. -/
  deepest : Nat := 0
  place : Cursor

/-- Skips empty lines and the spaces in front of the next line, up to column `indent` where it is
known. A tab is no indentation. -/
def blockGap (steps : Nat) (indent : Option Nat) (g : BlockGap) : Option BlockGap :=
  match steps with
  | 0 => none
  | steps + 1 =>
    let spaces := (g.place.rest.takeWhile (· = ' ')).length
    let wanted := match indent with
      | some n => min spaces (n - g.place.column)
      | none => spaces
    let c := g.place.skip wanted
    let deepest := max g.deepest c.column
    match c.rest with
    | x :: _ =>
      if x = '\t' ∧ indent.all (c.column < ·) then none
      else if isBreak x then
        blockGap steps indent { breaks := g.breaks ++ [x], deepest, place := c.next }
      else some { g with deepest, place := c }
    | [] => some { g with deepest, place := c }

/-- A block as far as it was read. -/
structure BlockText where
  text : String := ""
  /-- The break at the end of the last line, if it has one. -/
  ending : List Char := []
  /-- The last line starts with a blank. -/
  startsBlank : Bool := false
  /-- The empty lines after it. -/
  gap : BlockGap

/-- Reads the lines of a block. In a folded one a break between two lines that start with no blank
stands for a space, or for nothing where empty lines come between them. -/
def blockLines (steps : Nat) (isFolded : Bool) (indent : Nat) (b : BlockText) : Option BlockText :=
  match steps with
  | 0 => none
  | steps + 1 =>
    let c := b.gap.place
    if c.column ≠ indent ∨ c.rest.isEmpty then some b
    else
      let startsBlank := c.rest.head?.any isBlank
      let joint :=
        if isFolded ∧ b.ending = ['\n'] ∧ ¬ b.startsBlank ∧ ¬ startsBlank then
          if b.gap.breaks.isEmpty then [' '] else []
        else b.ending
      let (line, c) := c.span (!isBreak ·)
      match blockGap steps (some indent) { place := c.next } with
      | none => none
      | some gap =>
        blockLines steps isFolded indent
          { text := b.text ++ String.ofList (joint ++ b.gap.breaks ++ line)
            ending := c.rest.take 1
            startsBlank
            gap }

/-- Reads a block scalar, from its sign on. `least` is the least column that its lines may start at;
they never start at the margin. -/
def block (steps : Nat) (least : Nat) (c : Cursor) : Option (Scalar × Cursor) :=
  let isFolded := c.sees '>'
  let (signs, c) := c.next.span fun x => x = '+' || x = '-' || x.isDigit
  let c := c.skipComment
  if !c.rest.head?.all isBreak then none
  else
    match blockHeader signs with
    | none => none
    | some (chomping, depth) =>
      let stated := depth.map (least - 1 + ·)
      match blockGap steps stated { place := c.next } with
      | none => none
      | some gap =>
        let indent := stated.getD (max (max gap.deepest least) 1)
        match blockLines steps isFolded indent { gap } with
        | none => none
        | some b =>
          let ending := match chomping with
            | .strip => []
            | .clip => b.ending
            | .keep => b.ending ++ b.gap.breaks
          let found : Scalar :=
            { text := b.text ++ String.ofList ending
              style := if isFolded then .folded else .literal }
          some (found, b.gap.place)

end TicketTrail.Yaml
