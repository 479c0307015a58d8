import TicketTrail.Decimal
import TicketTrail.Json.Value

/-!
# Values that can be held

A value whose form is not yet known is held as a whole before it is taken apart. It can be held when
every string in it spells a text, every number is within the range of a double, and arrays and
objects are not nested too deeply.
-/

namespace TicketTrail.Json

/-- The number is within the range of a double. -/
def decimalIsHeld (text : String) : Bool :=
  (Decimal.ofUnsigned (text.toList.dropWhile (· = '-'))).isFinite

mutual

/-- The value can be held, with at most `depth` arrays and objects around any part of it. -/
def isHeld (depth : Nat) : Json → Bool
  | garbled => false
  | integer n => n.natAbs < Decimal.doubleLimit
  | decimal text => decimalIsHeld text
  | array items => depth ≠ 0 && allHeld (depth - 1) items
  | object fields => depth ≠ 0 && allFieldsHeld (depth - 1) fields
  | _ => true

/-- Every item can be held. -/
def allHeld (depth : Nat) : List Json → Bool
  | [] => true
  | item :: rest => isHeld depth item && allHeld depth rest

/-- Every field can be held. -/
def allFieldsHeld (depth : Nat) : List (String × Json) → Bool
  | [] => true
  | (_, value) :: rest => isHeld depth value && allFieldsHeld depth rest

end

end TicketTrail.Json
