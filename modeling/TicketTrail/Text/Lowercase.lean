import TicketTrail.Text.CaseTable

/-!
# Lowercase

Full lowercasing of a text. Each character goes to its lowercase mapping, with two exceptions:
`İ` becomes two characters, and a capital sigma at the end of a word becomes the final sigma. A
sigma ends a word when a cased character stands before it and none after it, where characters that
casing ignores are looked through on both sides.
-/

namespace TicketTrail.Text

/-- The simple lowercase mapping of one character. -/
def lowerSimple (c : Char) : Char :=
  if c.toNat < 0x80 then
    c.toLower
  else
    match caseRuns.find? (·.contains c.toNat) with
    | some run => Char.ofNat (c.toNat + run.shift).toNat
    | none => c

/-- The lowercase mapping of one character outside any context. -/
def lowerChar (c : Char) : List Char :=
  if c = 'İ' then ['i', '\u0307'] else [lowerSimple c]

/-- The character has the property `Cased`. -/
def isCased (c : Char) : Bool :=
  inRanges casedRanges c.toNat

/-- The character has the property `Case_Ignorable`. -/
def isCaseIgnorable (c : Char) : Bool :=
  inRanges caseIgnorableRanges c.toNat

/-- The first character that casing does not ignore is cased. -/
def meetsCased (s : List Char) : Bool :=
  (s.dropWhile isCaseIgnorable).head?.any isCased

/-- A capital sigma between `before` (nearest character first) and `after` ends its word. -/
def sigmaIsFinal (before after : List Char) : Bool :=
  meetsCased before && !meetsCased after

/-- Lowercases the text `s` that follows `before` (nearest character first). -/
def lowerAfter (before : List Char) : List Char → List Char
  | [] => []
  | c :: rest =>
    (if c = 'Σ' then [if sigmaIsFinal before rest then 'ς' else 'σ'] else lowerChar c) ++
      lowerAfter (c :: before) rest

/-- Lowercases a text. -/
def lowerChars (s : List Char) : List Char :=
  lowerAfter [] s

/-- Lowercases a string. -/
def lower (s : String) : String :=
  String.ofList (lowerChars s.toList)

/-! ## Small cases -/

@[simp] theorem lowerChars_nil : lowerChars [] = [] := rfl

theorem lowerChar_ne_nil (c : Char) : lowerChar c ≠ [] := by
  unfold lowerChar
  split <;> simp

/-- Only the empty text is lowercased to nothing. -/
theorem lowerChars_eq_nil_iff {s : List Char} : lowerChars s = [] ↔ s = [] := by
  cases s with
  | nil => simp
  | cons c r =>
    simp only [lowerChars, lowerAfter, List.append_eq_nil_iff, reduceCtorEq, iff_false, not_and]
    intro h
    split at h
    · simp at h
    · exact absurd h (lowerChar_ne_nil c)

end TicketTrail.Text
