import TicketTrail.Text.Blank
import TicketTrail.Time.Instant

/-!
# Timestamps

Instants as text, in the form of RFC 3339. Writing is always in UTC, with the fewest of 0, 3, 6 or 9
fraction digits that are exact. Reading is more relaxed: blanks may stand before a number or a
separator, numbers need not have all their digits, a space may stand for the `T`, a year of more
than four digits carries a sign, and fraction digits past the ninth are dropped. The offset from UTC
must be given.
-/

namespace TicketTrail

namespace Timestamp

/-! ## Writing -/

/-- A number with zeros in front, up to the given width. -/
def padded (width n : Nat) : String :=
  let digits := toString n
  String.ofList (List.replicate (width - digits.length) '0') ++ digits

/-- A year with four digits; one that does not fit has a sign. -/
def yearText (year : Int) : String :=
  if 0 ≤ year ∧ year ≤ 9999 then padded 4 year.toNat
  else (if year < 0 then "-" else "+") ++ padded 4 year.natAbs

/-- A date as `YYYY-MM-DD`. -/
def dateText (date : Date) : String :=
  yearText date.year ++ "-" ++ padded 2 date.month ++ "-" ++ padded 2 date.day

/-- The fraction of a second, with the fewest of 0, 3, 6 or 9 digits that are exact. -/
def fractionText (nano : Nat) : String :=
  if nano = 0 then ""
  else if nano % 1000000 = 0 then "." ++ padded 3 (nano / 1000000)
  else if nano % 1000 = 0 then "." ++ padded 6 (nano / 1000)
  else "." ++ padded 9 nano

/-!
## Reading

Each reader gives what it read and the text after it.
-/

/-- Reads a number of at least one and at most `most` decimal digits. -/
def number (most : Nat) (s : List Char) : Option (Nat × List Char) :=
  let digits := (s.take most).takeWhile Char.isDigit
  if digits.isEmpty then none
  else some (digits.foldl (fun n c => n * 10 + (c.toNat - '0'.toNat)) 0, s.drop digits.length)

/-- Reads a number of at most two digits that lies between two bounds; blanks may stand before
it. -/
def field (least most : Nat) (s : List Char) : Option (Nat × List Char) := do
  let (n, rest) ← number 2 (Text.trimStartChars s)
  if least ≤ n ∧ n ≤ most then some (n, rest) else none

/-- Reads a separator; blanks may stand before it. -/
def separator (c : Char) (s : List Char) : Option (List Char) :=
  match Text.trimStartChars s with
  | d :: rest => if d = c then some rest else none
  | [] => none

/-- Reads a year: up to four digits, or a sign and any number of digits. -/
def year (s : List Char) : Option (Int × List Char) := do
  let s := Text.trimStartChars s
  match s with
  | '-' :: rest =>
    let (n, rest) ← number rest.length rest
    some (-(n : Int), rest)
  | '+' :: rest =>
    let (n, rest) ← number rest.length rest
    some ((n : Int), rest)
  | _ =>
    let (n, rest) ← number 4 s
    some ((n : Int), rest)

/-- Reads a date of the calendar's years. -/
def calendarDate (s : List Char) : Option (Date × List Char) := do
  let (year, s) ← year s
  let s ← separator '-' s
  let (month, s) ← field 1 12 s
  let s ← separator '-' s
  let (day, s) ← field 1 31 s
  let date : Date := { year, month, day }
  if -262143 ≤ year ∧ year ≤ 262142 ∧ date.isValid then some (date, s) else none

/-- Reads the fraction of a second, in nanoseconds; there need not be one. -/
def fraction (s : List Char) : Option (Nat × List Char) :=
  match s with
  | '.' :: s => do
    let (n, rest) ← number 9 s
    some (n * Nat.pow 10 (9 - (s.length - rest.length)), rest.dropWhile Char.isDigit)
  | _ => some (0, s)

/-- Reads the time of day: the seconds since midnight, and nanoseconds that go past a second when
it is a leap second. -/
def timeOfDay (s : List Char) : Option ((Nat × Nat) × List Char) := do
  let (hour, s) ← field 0 23 s
  let s ← separator ':' s
  let (minute, s) ← field 0 59 s
  let s ← separator ':' s
  let (second, s) ← field 0 60 s
  let (nano, s) ← fraction s
  let minutes := hour * 60 + minute
  if second = 60 then some ((minutes * 60 + 59, nanosPerSecond + nano), s)
  else some ((minutes * 60 + second, nano), s)

/-- Reads two digits as a number. -/
def twoDigits (s : List Char) : Option (Nat × List Char) :=
  match s with
  | a :: b :: _ => if a.isDigit ∧ b.isDigit then number 2 s else none
  | _ => none

/-- Reads hours and minutes, with colons and blanks between them, as seconds. -/
def hoursMinutes (s : List Char) : Option (Nat × List Char) := do
  let (hours, s) ← twoDigits s
  let (minutes, s) ← twoDigits (s.dropWhile fun c => c = ':' || Text.isBlank c)
  if minutes ≤ 59 then some (hours * 3600 + minutes * 60, s) else none

/-- Reads the offset from UTC in seconds, which is less than a day. -/
def offset (s : List Char) : Option (Int × List Char) := do
  let (seconds, rest) ← match s with
    | 'Z' :: rest | 'z' :: rest => some ((0 : Int), rest)
    | '+' :: rest => (hoursMinutes rest).map fun (n, rest) => ((n : Int), rest)
    | '-' :: rest | '−' :: rest => (hoursMinutes rest).map fun (n, rest) => (-(n : Int), rest)
    | u :: t :: c :: rest =>
      if u.toUpper = 'U' ∧ t.toUpper = 'T' ∧ c.toUpper = 'C' then some ((0 : Int), rest) else none
    | _ => none
  if seconds.natAbs < secondsPerDay then some (seconds, rest) else none

/-- Reads the letter or the space between date and time. -/
def dateEnd (s : List Char) : Option (List Char) :=
  match s with
  | 'T' :: rest | 't' :: rest | ' ' :: rest => some rest
  | _ => none

end Timestamp

namespace Instant

/-- Reads a timestamp. -/
def parse? (text : String) : Option Instant := do
  let (date, s) ← Timestamp.calendarDate text.toList
  let s ← Timestamp.dateEnd s
  let ((second, nano), s) ← Timestamp.timeOfDay s
  let (offset, s) ← Timestamp.offset (Text.trimStartChars s)
  if Text.trimStartChars s ≠ [] then none
  else ofParts? (date.toDays * secondsPerDay + second - offset) nano

/-- The date of the instant as `YYYY-MM-DD`. -/
def dateText (t : Instant) : String :=
  Timestamp.dateText t.date

/-- Writes the instant as a timestamp in UTC. -/
def text (t : Instant) : String :=
  let secondOfDay := (t.second % secondsPerDay).toNat
  let isLeap := nanosPerSecond ≤ t.nano
  let second := secondOfDay % 60 + if isLeap then 1 else 0
  let nano := if isLeap then t.nano - nanosPerSecond else t.nano
  t.dateText ++ "T" ++ Timestamp.padded 2 (secondOfDay / 3600) ++ ":" ++
    Timestamp.padded 2 (secondOfDay / 60 % 60) ++ ":" ++ Timestamp.padded 2 second ++
    Timestamp.fractionText nano ++ "Z"

end Instant

end TicketTrail
