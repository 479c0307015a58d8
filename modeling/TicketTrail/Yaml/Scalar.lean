import TicketTrail.Decimal

/-!
# YAML scalars

A scalar and what it says: a plain one can be read as no value, as a truth value or as a number. One
in another form is a text, unless it is a literal block whose tag says otherwise.
-/

namespace TicketTrail.Yaml

/-- How a scalar is written. -/
inductive Style where
  | plain
  | quoted
  /-- A block whose line breaks are kept. -/
  | literal
  /-- A block whose line breaks are folded. -/
  | folded
deriving Repr, DecidableEq, Inhabited

/-- A scalar; its tag says which type it is meant to have. -/
structure Scalar where
  text : String
  style : Style
  tag : Option String := none
deriving Repr, DecidableEq, Inhabited

/-- The number that an unsigned scalar spells: decimal without a zero in front, or in base 16, 8 or
2 behind `0x`, `0o` or `0b`. -/
def unsignedNumber? (s : List Char) : Option Nat :=
  match s with
  | '0' :: 'x' :: rest => natInBase? 16 rest
  | '0' :: 'o' :: rest => natInBase? 8 rest
  | '0' :: 'b' :: rest => natInBase? 2 rest
  | '0' :: _ :: _ => none
  | _ => natInBase? 10 s

namespace Scalar

/-- The tag of a type that YAML itself names. -/
def coreTag (name : String) : String := "tag:yaml.org,2002:" ++ name

/-- The plain scalar without a text, which stands where a node is left out. -/
def absent : Scalar := { text := "", style := .plain }

/-- The text is one of the words for no value. -/
def spellsNull (s : Scalar) : Bool := ["~", "null", "Null", "NULL"].contains s.text

/-- The scalar is plain and its tag says that it is no value. -/
def isTaggedNull (s : Scalar) : Bool := s.style == .plain && s.tag == some (coreTag "null")

/-- The scalar stands for no value. -/
def isNull (s : Scalar) : Bool :=
  s.style == .plain &&
    match s.tag with
    | none => s.text.isEmpty || s.spellsNull
    | some _ => s.isTaggedNull && s.spellsNull

/-- The text can be read as a value of the type with the given tag. -/
def mayBe (tag : String) (s : Scalar) : Bool :=
  match s.style with
  | .plain => true
  | .literal => s.tag == some tag
  | _ => false

/-- The truth value that a scalar stands for. -/
def toBool? (s : Scalar) : Option Bool :=
  if !s.mayBe (coreTag "bool") then none
  else if ["true", "True", "TRUE"].contains s.text then some true
  else if ["false", "False", "FALSE"].contains s.text then some false
  else none

/-- The number that a scalar stands for, with or without a plus sign. -/
def toNat? (s : Scalar) : Option Nat :=
  if !s.mayBe (coreTag "int") then none
  else
    match s.text.toList with
    | '+' :: rest => unsignedNumber? rest
    | chars => unsignedNumber? chars

end Scalar

end TicketTrail.Yaml
