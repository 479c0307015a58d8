import TicketTrail.Decimal
import TicketTrail.Json.Value

/-!
# Reading JSON

A reader for the text of one JSON value, with blanks allowed around every token. Each reader gives
what it read and the text after it, and `none` when the text is malformed.
-/

namespace TicketTrail.Json

namespace Reader

/-- Drops the blanks that JSON allows between tokens. -/
def skipBlanks (s : List Char) : List Char :=
  s.dropWhile fun c => c = ' ' || c = '\n' || c = '\t' || c = '\r'

/-- The value of a hexadecimal digit. -/
def hexValue? (c : Char) : Option Nat :=
  if '0' ≤ c ∧ c ≤ '9' then some (c.toNat - '0'.toNat)
  else if 'a' ≤ c ∧ c ≤ 'f' then some (c.toNat - 'a'.toNat + 10)
  else if 'A' ≤ c ∧ c ≤ 'F' then some (c.toNat - 'A'.toNat + 10)
  else none

/-- The value of four hexadecimal digits. -/
def hex4? (a b c d : Char) : Option Nat := do
  let a ← hexValue? a
  let b ← hexValue? b
  let c ← hexValue? c
  let d ← hexValue? d
  return ((a * 16 + b) * 16 + c) * 16 + d

/-- The character that a one-letter escape stands for. -/
def letterEscape? (c : Char) : Option Char :=
  if c = '"' then some '"'
  else if c = '\\' then some '\\'
  else if c = '/' then some '/'
  else if c = 'b' then some '\x08'
  else if c = 'f' then some '\x0c'
  else if c = 'n' then some '\n'
  else if c = 'r' then some '\r'
  else if c = 't' then some '\t'
  else none

/-- The code is the first half of a surrogate pair. -/
def isLeading (n : Nat) : Bool := 0xD800 ≤ n && n ≤ 0xDBFF

/-- The code is the second half of a surrogate pair. -/
def isTrailing (n : Nat) : Bool := 0xDC00 ≤ n && n ≤ 0xDFFF

/-- The character that a surrogate pair stands for. -/
def joinPair (leading trailing : Nat) : Char :=
  Char.ofNat (0x10000 + (leading - 0xD800) * 0x400 + (trailing - 0xDC00))

/-- Reads the rest of a string whose opening quote was read. The characters so far are in `done`,
last one first, and `sound` says whether every escape so far stands for a character. The answer is
`garbled` or the string. -/
def stringRest (sound : Bool) (done : List Char) : List Char → Option (Json × List Char)
  | '"' :: rest =>
    some (if sound then string (String.ofList done.reverse) else garbled, rest)
  | '\\' :: 'u' :: a :: b :: c :: d :: '\\' :: 'u' :: e :: f :: g :: h :: rest =>
    match hex4? a b c d with
    | none => none
    | some n =>
      if isLeading n then
        match hex4? e f g h with
        | none => none
        | some m =>
          if isTrailing m then stringRest sound (joinPair n m :: done) rest
          else stringRest false done ('\\' :: 'u' :: e :: f :: g :: h :: rest)
      else if isTrailing n then
        stringRest false done ('\\' :: 'u' :: e :: f :: g :: h :: rest)
      else
        stringRest sound (Char.ofNat n :: done) ('\\' :: 'u' :: e :: f :: g :: h :: rest)
  | '\\' :: 'u' :: a :: b :: c :: d :: rest =>
    match hex4? a b c d with
    | none => none
    | some n =>
      if isLeading n || isTrailing n then stringRest false done rest
      else stringRest sound (Char.ofNat n :: done) rest
  | '\\' :: c :: rest =>
    match letterEscape? c with
    | none => none
    | some d => stringRest sound (d :: done) rest
  | c :: rest =>
    if c.toNat < 0x20 || c = '\\' then none else stringRest sound (c :: done) rest
  | [] => none

/-- Reads the decimal digits at the front, of which there must be one. -/
def digits (s : List Char) : Option (List Char × List Char) :=
  let front := s.takeWhile Char.isDigit
  if front.isEmpty then none else some (front, s.drop front.length)

/-- Reads the digits before the decimal point: no zero stands in front of other digits. -/
def wholePart (s : List Char) : Option (List Char × List Char) := do
  let (front, rest) ← digits s
  if front.length > 1 ∧ front.head? = some '0' then none else some (front, rest)

/-- Reads the decimal point and the digits after it, if there are any. -/
def fractionPart (s : List Char) : Option (List Char × List Char) :=
  match s with
  | '.' :: rest => (digits rest).map fun (front, rest) => ('.' :: front, rest)
  | _ => some ([], s)

/-- Reads the exponent, if there is one. -/
def exponentPart (s : List Char) : Option (List Char × List Char) :=
  match s with
  | e :: rest =>
    if e = 'e' ∨ e = 'E' then
      match rest with
      | '+' :: rest => (digits rest).map fun (front, rest) => (e :: '+' :: front, rest)
      | '-' :: rest => (digits rest).map fun (front, rest) => (e :: '-' :: front, rest)
      | _ => (digits rest).map fun (front, rest) => (e :: front, rest)
    else some ([], s)
  | [] => some ([], [])

/-- Reads a number after its sign. -/
def unsigned (negative : Bool) (s : List Char) : Option (Json × List Char) := do
  let (whole, s) ← wholePart s
  let (fraction, s) ← fractionPart s
  let (exponent, s) ← exponentPart s
  let n := natOfDigits whole
  if fraction.isEmpty ∧ exponent.isEmpty ∧ ¬ (negative ∧ n = 0) then
    return (integer (if negative then -(n : Int) else n), s)
  else
    let sign := if negative then ['-'] else []
    return (decimal (String.ofList (sign ++ whole ++ fraction ++ exponent)), s)

/-- Reads a number. -/
def number (s : List Char) : Option (Json × List Char) :=
  match s with
  | '-' :: rest => unsigned true rest
  | _ => unsigned false s

mutual

/-- Reads a value. -/
def value (fuel : Nat) (s : List Char) : Option (Json × List Char) :=
  match fuel with
  | 0 => none
  | fuel + 1 =>
    match skipBlanks s with
    | 'n' :: 'u' :: 'l' :: 'l' :: rest => some (null, rest)
    | 't' :: 'r' :: 'u' :: 'e' :: rest => some (bool true, rest)
    | 'f' :: 'a' :: 'l' :: 's' :: 'e' :: rest => some (bool false, rest)
    | '"' :: rest => stringRest true [] rest
    | '[' :: rest =>
      match skipBlanks rest with
      | ']' :: rest => some (array [], rest)
      | rest => items fuel [] rest
    | '{' :: rest =>
      match skipBlanks rest with
      | '}' :: rest => some (object [], rest)
      | rest => fields fuel true [] rest
    | rest => number rest

/-- Reads the items of an array and its end; the items so far are in `done`, last one first. -/
def items (fuel : Nat) (done : List Json) (s : List Char) : Option (Json × List Char) :=
  match fuel with
  | 0 => none
  | fuel + 1 =>
    match value fuel s with
    | none => none
    | some (item, rest) =>
      match skipBlanks rest with
      | ',' :: rest => items fuel (item :: done) rest
      | ']' :: rest => some (array (item :: done).reverse, rest)
      | _ => none

/-- Reads the fields of an object and its end; the fields so far are in `done`, last one first. An
object with a name that spells no text spells no value. -/
def fields (fuel : Nat) (sound : Bool) (done : List (String × Json)) (s : List Char) :
    Option (Json × List Char) :=
  match fuel with
  | 0 => none
  | fuel + 1 =>
    match skipBlanks s with
    | '"' :: rest =>
      match stringRest true [] rest with
      | none => none
      | some (name, rest) =>
        match skipBlanks rest with
        | ':' :: rest =>
          match value fuel rest with
          | none => none
          | some (field, rest) =>
            let (sound, done) := match name with
              | string name => (sound, (name, field) :: done)
              | _ => (false, done)
            match skipBlanks rest with
            | ',' :: rest => fields fuel sound done rest
            | '}' :: rest => some (if sound then object done.reverse else garbled, rest)
            | _ => none
        | _ => none
    | _ => none

end

end Reader

/-- Reads a text that is one JSON value. -/
def parse? (text : String) : Option Json :=
  let s := text.toList
  match Reader.value (2 * s.length + 2) s with
  | some (value, rest) => if (Reader.skipBlanks rest).isEmpty then some value else none
  | none => none

end TicketTrail.Json
