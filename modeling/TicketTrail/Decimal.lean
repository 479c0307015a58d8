/-!
# Written numbers

The numbers that digits of a base spell, and decimal numbers as they are written, with a point and a
power of ten, and whether they are in the range of a double. The comparison is exact.
-/

namespace TicketTrail

/-- The number that a row of decimal digits spells. -/
def natOfDigits (s : List Char) : Nat :=
  s.foldl (fun n c => n * 10 + (c.toNat - '0'.toNat)) 0

/-- The value of a digit in a base of at most 16. -/
def digitValue? (base : Nat) (c : Char) : Option Nat :=
  let value :=
    if '0' ≤ c ∧ c ≤ '9' then c.toNat - '0'.toNat
    else if 'a' ≤ c ∧ c ≤ 'f' then c.toNat - 'a'.toNat + 10
    else if 'A' ≤ c ∧ c ≤ 'F' then c.toNat - 'A'.toNat + 10
    else base
  if value < base then some value else none

/-- The number that digits in a base spell; there must be one. -/
def natInBase? (base : Nat) (s : List Char) : Option Nat :=
  if s.isEmpty then none
  else s.foldlM (fun n c => (digitValue? base c).map (n * base + ·)) 0

/-- The number `digits * 10 ^ power`. -/
structure Decimal where
  digits : Nat
  power : Int
deriving Repr, DecidableEq

namespace Decimal

/-- The number that a text without a sign spells: digits, perhaps with a point among them, and
perhaps an exponent. -/
def ofUnsigned (s : List Char) : Decimal :=
  let mantissa := s.takeWhile fun c => c ≠ 'e' ∧ c ≠ 'E'
  let exponent := s.drop (mantissa.length + 1)
  let fraction := (mantissa.dropWhile (· ≠ '.')).filter Char.isDigit
  let power : Int := match exponent with
    | '-' :: rest => -(natOfDigits rest : Int)
    | '+' :: rest => natOfDigits rest
    | rest => natOfDigits rest
  { digits := natOfDigits (mantissa.filter Char.isDigit), power := power - fraction.length }

/-- The least integer that rounds to infinity as a double. -/
def doubleLimit : Nat := Nat.pow 2 1024 - Nat.pow 2 970

/-- The number rounds to a finite double. The number of its digits decides unless it is close to the
limit. -/
def isFinite (d : Decimal) : Bool :=
  let magnitude := (toString d.digits).length + d.power
  if d.digits = 0 ∨ magnitude < 309 then true
  else if 310 < magnitude then false
  else if 0 ≤ d.power then d.digits * Nat.pow 10 d.power.toNat < doubleLimit
  else d.digits < doubleLimit * Nat.pow 10 d.power.natAbs

end Decimal

end TicketTrail
