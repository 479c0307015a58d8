import TicketTrail.Toml.Scalar

/-!
# Reading TOML

A document is a list of lines, each of them blank, a key with its value, or the header of a table or
of the next element of an array of tables.
-/

namespace TicketTrail.Toml

/-- Drops a comment, if there is one. -/
def skipComment (s : List Char) : List Char :=
  match s with
  | '#' :: rest => rest.dropWhile fun c => isShown c || c = '\t'
  | s => s

/-- Drops blanks, comments and line ends. -/
def skipLines (fuel : Nat) (s : List Char) : List Char :=
  match fuel with
  | 0 => s
  | fuel + 1 =>
    let rest := skipComment (skipSpaces s)
    match lineEnd? rest with
    | some rest => skipLines fuel rest
    | none => rest

mutual

/-- Reads a value, which has room for as many arrays and tables in braces inside each other. -/
def value (fuel room : Nat) (s : List Char) : Option (Toml × List Char) :=
  match fuel with
  | 0 => none
  | fuel + 1 =>
    match s with
    | '"' :: _ | '\'' :: _ => (anyString s).map fun (text, rest) => (string text, rest)
    | '[' :: rest =>
      if room = 0 then none else items fuel (room - 1) [] (skipLines (rest.length + 1) rest)
    | '{' :: rest =>
      if room = 0 then none
      else
        match skipSpaces rest with
        | '}' :: rest => some (table .braces [], rest)
        | rest => pairs fuel (room - 1) [] rest
    | 't' :: 'r' :: 'u' :: 'e' :: rest => some (boolean true, rest)
    | 'f' :: 'a' :: 'l' :: 's' :: 'e' :: rest => some (boolean false, rest)
    | _ => number s

/-- Reads the items of an array and its end; the items so far are in `done`, last one first. -/
def items (fuel room : Nat) (done : List Toml) (s : List Char) : Option (Toml × List Char) :=
  match fuel with
  | 0 => none
  | fuel + 1 =>
    match s with
    | ']' :: rest => some (array done.reverse, rest)
    | s =>
      match value fuel room s with
      | none => none
      | some (item, rest) =>
        match skipLines (rest.length + 1) rest with
        | ',' :: rest => items fuel room (item :: done) (skipLines (rest.length + 1) rest)
        | ']' :: rest => some (array (item :: done).reverse, rest)
        | _ => none

/-- Reads the pairs of a table in braces and its end. -/
def pairs (fuel room : Nat) (done : Pairs) (s : List Char) : Option (Toml × List Char) :=
  match fuel with
  | 0 => none
  | fuel + 1 =>
    match key s with
    | some (path, '=' :: rest) =>
      match value fuel room (skipSpaces rest) with
      | none => none
      | some (item, rest) =>
        match set path item done with
        | none => none
        | some done =>
          match skipSpaces rest with
          | ',' :: rest => pairs fuel room done rest
          | '}' :: rest => some (table .braces done, rest)
          | _ => none
    | _ => none

end

/-- A document as far as it was read: all its pairs, and the path of the table that takes the keys
to come. -/
structure Draft where
  pairs : Pairs := []
  path : List String := []

/-- Reads the path of a header and the brackets after it. -/
def headerPath (closing s : List Char) : Option (List String × List Char) := do
  let (path, rest) ← key s
  let rest ← Text.dropStart? closing rest
  some (path, rest)

/-- Reads what stands on a line: nothing, a header, or a key with its value. -/
def line (draft : Draft) (s : List Char) : Option (Draft × List Char) :=
  match s with
  | '[' :: '[' :: rest => do
    let (path, rest) ← headerPath [']', ']'] rest
    let pairs ← openElement path draft.pairs
    some ({ pairs, path }, rest)
  | '[' :: rest => do
    let (path, rest) ← headerPath [']'] rest
    let pairs ← openTable path draft.pairs
    some ({ pairs, path }, rest)
  | '#' :: _ | '\n' :: _ | '\r' :: _ | [] => some (draft, s)
  | _ => do
    let (path, rest) ← key s
    let rest ← Text.dropStart? ['='] rest
    let rest := skipSpaces rest
    let (item, rest) ← value (2 * rest.length + 2) (nestingLimit - 1) rest
    let pairs ← within draft.path (set path item) draft.pairs
    some ({ draft with pairs }, rest)

/-- Reads lines up to the end of the text. -/
def linesFrom (fuel : Nat) (draft : Draft) (s : List Char) : Option Pairs :=
  match fuel with
  | 0 => none
  | fuel + 1 =>
    match line draft (skipSpaces s) with
    | none => none
    | some (draft, rest) =>
      match skipComment (skipSpaces rest) with
      | [] => some draft.pairs
      | rest =>
        match lineEnd? rest with
        | some rest => linesFrom fuel draft rest
        | none => none

/-- Reads a TOML document. -/
def parse? (text : String) : Option Pairs :=
  let s := match text.toList with
    | '\uFEFF' :: rest => rest
    | s => s
  linesFrom (s.length + 1) {} s

end TicketTrail.Toml
