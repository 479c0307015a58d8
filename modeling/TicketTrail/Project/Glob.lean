/-!
# Globs

A glob is a text with wildcards: `*` stands for any text, also the empty one, U+0000 for any one
character, and every other character for itself.

## Main results

* `Glob.length_matchSuffixes` — the matcher answers for every suffix of the text.
-/

namespace TicketTrail

/-- One piece of a glob. -/
inductive GlobPiece where
  /-- Any text. -/
  | star
  /-- Any one character. -/
  | one
  /-- The character itself. -/
  | literal (c : Char)
deriving Repr, DecidableEq

/-- The pieces of a glob, in order. -/
abbrev Glob := List GlobPiece

namespace Glob

/-- The piece that a character of the written glob stands for. -/
def piece (c : Char) : GlobPiece :=
  if c = '*' then .star else if c = '\x00' then .one else .literal c

/-- Reads a written glob. -/
def ofChars (s : List Char) : Glob :=
  s.map piece

/-- For each suffix of a row of answers, whether it holds a `true`. -/
def anyFromHere : List Bool → List Bool
  | [] => []
  | b :: rest => (b || rest.any id) :: anyFromHere rest

/-- For each suffix of the text, the longest first, whether the glob matches all of it. Each piece
is matched against the answers for the pieces after it, so no choice is made twice. -/
def matchSuffixes : Glob → List Char → List Bool
  | [], s => s.map (fun _ => false) ++ [true]
  | .star :: rest, s => anyFromHere (matchSuffixes rest s)
  | .one :: rest, s => (matchSuffixes rest s).tail ++ [false]
  | .literal c :: rest, s =>
    List.zipWith (fun d b => d == c && b) s (matchSuffixes rest s).tail ++ [false]

/-- The glob matches the whole text. -/
def isMatch (glob : Glob) (s : List Char) : Bool :=
  (matchSuffixes glob s).headD false

@[simp] theorem length_anyFromHere (row : List Bool) :
    (anyFromHere row).length = row.length := by
  induction row with
  | nil => rfl
  | cons b rest ih => simp [anyFromHere, ih]

/-- There is one answer for each suffix of the text, the empty one included. -/
theorem length_matchSuffixes (glob : Glob) (s : List Char) :
    (matchSuffixes glob s).length = s.length + 1 := by
  induction glob with
  | nil => simp [matchSuffixes]
  | cons p rest ih => cases p <;> simp [matchSuffixes, ih]

end Glob

end TicketTrail
