import TicketTrail.Decimal
import TicketTrail.Text.Split
import TicketTrail.Time.Calendar
import TicketTrail.Toml.Value

/-!
# TOML scalars

Readers for keys, strings, numbers, dates and times. Each reader gives what it read and the text
after it, and `none` when the text is malformed.
-/

namespace TicketTrail.Toml

/-- Drops the spaces and tabs at the front. -/
def skipSpaces (s : List Char) : List Char := s.dropWhile fun c => c = ' ' || c = '\t'

/-- Drops a line end. -/
def lineEnd? : List Char → Option (List Char)
  | '\n' :: rest => some rest
  | '\r' :: '\n' :: rest => some rest
  | _ => none

/-- A character that may stand in a string or a comment, besides a tab: no control character. -/
def isShown (c : Char) : Bool := 0x20 ≤ c.toNat && c.toNat ≠ 0x7F

/-- A character of a bare key. -/
def isKeyChar (c : Char) : Bool := c.isAlphanum || c = '_' || c = '-'

/-- Reads the `n` hexadecimal digits of an escape, and the character with that code. -/
def hexChar (n : Nat) (s : List Char) : Option (Char × List Char) := do
  let digits := s.take n
  let code ← natInBase? 16 digits
  if digits.length = n ∧ code.isValidChar then some (Char.ofNat code, s.drop n) else none

/-- Reads an escape after its backslash. -/
def escape (s : List Char) : Option (Char × List Char) :=
  match s with
  | 'b' :: rest => some ('\x08', rest)
  | 't' :: rest => some ('\t', rest)
  | 'n' :: rest => some ('\n', rest)
  | 'f' :: rest => some ('\x0c', rest)
  | 'r' :: rest => some ('\r', rest)
  | '"' :: rest => some ('"', rest)
  | '\\' :: rest => some ('\\', rest)
  | 'u' :: rest => hexChar 4 rest
  | 'U' :: rest => hexChar 8 rest
  | _ => none

/-- Reads a basic string after its opening quote. -/
def basicRest (fuel : Nat) (done s : List Char) : Option (String × List Char) :=
  match fuel, s with
  | 0, _ => none
  | _ + 1, '"' :: rest => some (String.ofList done.reverse, rest)
  | fuel + 1, '\\' :: rest =>
    match escape rest with
    | some (c, rest) => basicRest fuel (c :: done) rest
    | none => none
  | fuel + 1, c :: rest =>
    if isShown c ∨ c = '\t' then basicRest fuel (c :: done) rest else none
  | _ + 1, [] => none

/-- Reads a literal string after its opening quote. -/
def literalRest (done : List Char) : List Char → Option (String × List Char)
  | '\'' :: rest => some (String.ofList done.reverse, rest)
  | c :: rest => if isShown c ∨ c = '\t' then literalRest (c :: done) rest else none
  | [] => none

/-- Drops blanks and line ends. -/
def skipBlankLines : List Char → List Char
  | ' ' :: rest | '\t' :: rest | '\n' :: rest => skipBlankLines rest
  | '\r' :: '\n' :: rest => skipBlankLines rest
  | s => s

/-- Drops the blanks and line ends after a backslash at the end of a line. -/
def skipFolded (s : List Char) : Option (List Char) :=
  (lineEnd? (skipSpaces s)).map skipBlankLines

/-- Reads a string over several lines after its opening quotes. The quotes at its end are three,
with up to two more that belong to the string. Only in a `basic` one is a backslash an escape. -/
def longRest (basic : Bool) (fuel : Nat) (done s : List Char) : Option (String × List Char) :=
  let quote := if basic then '"' else '\''
  match fuel, s with
  | 0, _ => none
  | _ + 1, [] => none
  | fuel + 1, c :: rest =>
    if c = quote then
      let quotes := s.takeWhile (· = quote)
      if quotes.length < 3 then longRest basic fuel (c :: done) rest
      else if quotes.length ≤ 5 then
        some (String.ofList (done.reverse ++ quotes.drop 3), s.drop quotes.length)
      else none
    else if basic ∧ c = '\\' then
      match escape rest with
      | some (d, rest) => longRest basic fuel (d :: done) rest
      | none =>
        match skipFolded rest with
        | some rest => longRest basic fuel done rest
        | none => none
    else if isShown c ∨ c = '\t' ∨ c = '\n' then longRest basic fuel (c :: done) rest
    else if c = '\r' ∧ rest.head? = some '\n' then longRest basic fuel done rest
    else none

/-- Reads a string on one line. -/
def shortString (s : List Char) : Option (String × List Char) :=
  match s with
  | '"' :: rest => basicRest (rest.length + 1) [] rest
  | '\'' :: rest => literalRest [] rest
  | _ => none

/-- Reads a string. -/
def anyString (s : List Char) : Option (String × List Char) :=
  match s with
  | '"' :: '"' :: '"' :: rest => longRest true (rest.length + 1) [] ((lineEnd? rest).getD rest)
  | '\'' :: '\'' :: '\'' :: rest => longRest false (rest.length + 1) [] ((lineEnd? rest).getD rest)
  | _ => shortString s

/-- Reads one part of a key. -/
def keyPart (s : List Char) : Option (String × List Char) :=
  match s with
  | '"' :: _ | '\'' :: _ => shortString s
  | _ =>
    let bare := s.takeWhile isKeyChar
    if bare.isEmpty then none else some (String.ofList bare, s.drop bare.length)

/-- Reads the parts of a key after the first one. -/
def keyRest (fuel : Nat) (done : List String) (s : List Char) : Option (List String × List Char) :=
  match fuel with
  | 0 => none
  | fuel + 1 =>
    match skipSpaces s with
    | '.' :: rest =>
      match keyPart (skipSpaces rest) with
      | some (part, rest) => keyRest fuel (part :: done) rest
      | none => none
    | rest => some (done.reverse, rest)

/-- A key has fewer parts than this, and a value has fewer arrays and tables in braces around it. -/
def nestingLimit : Nat := 80

/-- Reads a key: its parts, which dots separate. -/
def key (s : List Char) : Option (List String × List Char) := do
  let (part, rest) ← keyPart (skipSpaces s)
  let (path, rest) ← keyRest (rest.length + 1) [part] rest
  if path.length < nestingLimit then some (path, rest) else none

/-! ## Numbers -/

/-- Digits of a base in which single underscores stand between two digits. -/
def wellGrouped (base : Nat) (s : List Char) : Bool :=
  (s.splitOn '_').all fun group => !group.isEmpty && group.all fun c => (digitValue? base c).isSome

/-- The digits without their underscores. -/
def ungrouped (s : List Char) : List Char := s.filter (· ≠ '_')

/-- The number that digits of a base spell, underscores among them. -/
def groupedNumber? (base : Nat) (s : List Char) : Option Nat :=
  if wellGrouped base s then natInBase? base (ungrouped s) else none

/-- A decimal integer without a sign: no zero stands in front of other digits. -/
def isDecimal (s : List Char) : Bool :=
  wellGrouped 10 s && (s.length = 1 || s.head? != some '0')

/-- A number within 64 signed bits. -/
def inRange (n : Int) : Option Toml :=
  if Int64.minValue.toInt ≤ n ∧ n ≤ Int64.maxValue.toInt then some (integer n) else none

/-- The integer that a token spells. -/
def integer? (token : List Char) : Option Toml :=
  match token with
  | '0' :: 'x' :: s => (groupedNumber? 16 s).bind fun n => inRange n
  | '0' :: 'o' :: s => (groupedNumber? 8 s).bind fun n => inRange n
  | '0' :: 'b' :: s => (groupedNumber? 2 s).bind fun n => inRange n
  | '-' :: s => if isDecimal s then (groupedNumber? 10 s).bind fun n => inRange (-n) else none
  | '+' :: s => if isDecimal s then (groupedNumber? 10 s).bind fun n => inRange n else none
  | s => if isDecimal s then (groupedNumber? 10 s).bind fun n => inRange n else none

/-- The text without a sign at the front. -/
def unsigned (s : List Char) : List Char :=
  match s with
  | '+' :: rest | '-' :: rest => rest
  | s => s

/-- The token spells a number with a fraction or an exponent, an infinity or no number at all. Only
a number with a minus sign may be too great for a double. -/
def isFloat (token : List Char) : Bool :=
  let s := unsigned token
  if s = ['i', 'n', 'f'] ∨ s = ['n', 'a', 'n'] then true
  else
    let mantissa := s.takeWhile fun c => c ≠ 'e' ∧ c ≠ 'E'
    let exponent := s.drop mantissa.length
    let whole := mantissa.takeWhile (· ≠ '.')
    let fraction := mantissa.drop whole.length
    isDecimal whole && (!fraction.isEmpty || !exponent.isEmpty) &&
      (fraction.isEmpty || wellGrouped 10 (fraction.drop 1)) &&
      (exponent.isEmpty || wellGrouped 10 (unsigned (exponent.drop 1))) &&
      (token.head? == some '-' || (Decimal.ofUnsigned (ungrouped s)).isFinite)

/-! ## Dates and times -/

/-- Reads exactly `n` digits as a number. -/
def fixedNumber (n : Nat) (s : List Char) : Option (Nat × List Char) := do
  let digits := s.take n
  let value ← natInBase? 10 digits
  if digits.length = n then some (value, s.drop n) else none

/-- Reads a date. -/
def date (s : List Char) : Option (Date × List Char) := do
  let (year, s) ← fixedNumber 4 s
  let s ← Text.dropStart? ['-'] s
  let (month, s) ← fixedNumber 2 s
  let s ← Text.dropStart? ['-'] s
  let (day, s) ← fixedNumber 2 s
  let date : Date := { year, month, day }
  if date.isValid then some (date, s) else none

/-- Reads the fraction of a second, if there is one. -/
def secondFraction (s : List Char) : Option (List Char) :=
  match s with
  | '.' :: rest =>
    let digits := rest.takeWhile Char.isDigit
    if digits.isEmpty then none else some (rest.drop digits.length)
  | _ => some s

/-- Reads a time of day. -/
def timeOfDay (s : List Char) : Option (List Char) := do
  let (hour, s) ← fixedNumber 2 s
  let s ← Text.dropStart? [':'] s
  let (minute, s) ← fixedNumber 2 s
  let s ← Text.dropStart? [':'] s
  let (second, s) ← fixedNumber 2 s
  if hour ≤ 23 ∧ minute ≤ 59 ∧ second ≤ 60 then secondFraction s else none

/-- Reads an offset from UTC, if there is one. -/
def zone (s : List Char) : Option (List Char) :=
  match s with
  | 'Z' :: rest | 'z' :: rest => some rest
  | '+' :: rest | '-' :: rest => do
    let (hour, s) ← fixedNumber 2 rest
    let s ← Text.dropStart? [':'] s
    let (minute, s) ← fixedNumber 2 s
    if hour ≤ 23 ∧ minute ≤ 59 then some s else none
  | _ => some s

/-- Reads a date, a time, or a date with a time behind a `T` or a space. -/
def anyTime (s : List Char) : Option (List Char) :=
  match date s with
  | some (_, rest) =>
    match rest with
    | 'T' :: after | 't' :: after => (timeOfDay after).bind zone
    | ' ' :: after =>
      match timeOfDay after with
      | some after => zone after
      | none => some rest
    | _ => some rest
  | none => timeOfDay s

/-- A character of a number, which is read as a whole. -/
def isNumberChar (c : Char) : Bool := c.isAlphanum || c = '_' || c = '+' || c = '-' || c = '.'

/-- Reads a number, a date or a time. -/
def number (s : List Char) : Option (Toml × List Char) :=
  match anyTime s with
  | some rest => some (time, rest)
  | none =>
    let token := s.takeWhile isNumberChar
    let rest := s.drop token.length
    match integer? token with
    | some n => some (n, rest)
    | none => if isFloat token then some (float, rest) else none

end TicketTrail.Toml
