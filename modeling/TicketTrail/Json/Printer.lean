import TicketTrail.Json.Value

/-!
# The text of a JSON value

Written without blanks. In strings the quote, the backslash and the control characters below U+0020
are escaped, the usual five of these by a letter and the others by four hexadecimal digits; all else
stands for itself.
-/

namespace TicketTrail.Json

/-- The lower-case hexadecimal digit for a number below 16. -/
def hexDigit (n : Nat) : Char :=
  if n < 10 then Char.ofNat ('0'.toNat + n) else Char.ofNat ('a'.toNat + (n - 10))

/-- How a character is written in a string. -/
def escape (c : Char) : List Char :=
  if c = '"' then ['\\', '"']
  else if c = '\\' then ['\\', '\\']
  else if c = '\x08' then ['\\', 'b']
  else if c = '\x0c' then ['\\', 'f']
  else if c = '\n' then ['\\', 'n']
  else if c = '\r' then ['\\', 'r']
  else if c = '\t' then ['\\', 't']
  else if c.toNat < 0x20 then
    ['\\', 'u', '0', '0', hexDigit (c.toNat / 16), hexDigit (c.toNat % 16)]
  else [c]

/-- A string in quotes. -/
def quoted (s : String) : String :=
  "\"" ++ String.ofList (s.toList.flatMap escape) ++ "\""

mutual

/-- The text of a value. -/
def text : Json → String
  | null => "null"
  | bool b => if b then "true" else "false"
  | integer n => toString n
  | decimal s => s
  | string s => quoted s
  | garbled => "\"\\ud800\""
  | array items => "[" ++ String.intercalate "," (itemTexts items) ++ "]"
  | object fields => "\x7b" ++ String.intercalate "," (fieldTexts fields) ++ "\x7d"

/-- The texts of the items of an array. -/
def itemTexts : List Json → List String
  | [] => []
  | item :: rest => text item :: itemTexts rest

/-- The texts of the fields of an object. -/
def fieldTexts : List (String × Json) → List String
  | [] => []
  | (name, value) :: rest => (quoted name ++ ":" ++ text value) :: fieldTexts rest

end

end TicketTrail.Json
