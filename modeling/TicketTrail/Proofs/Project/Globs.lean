import Mathlib.Data.List.Forall2
import Mathlib.Data.List.Infix
import TicketTrail.Project.Pattern

/-!
# What a glob matches

A text matches a glob when it can be cut into as many parts as the glob has characters, so that
each character stands for its part: `*` for any part, the empty one included, U+0000 for a single
character, and every other character for itself. There can be many ways of cutting a text, one for
each choice of what the stars stand for, and any one of them will do.

The matcher does not try them one after another, and it never goes back. From the last piece of
the glob to the first it keeps a row of answers, one for each suffix of the text. So the proof
first says that the row of a glob is nothing but the glob matched against every suffix
(`Glob.matchSuffixes_eq_map_tails`), and then what one more piece in front asks of the text.

Main results:

* `Glob.matchSuffixes_eq_map_tails` — the row of answers;
* `Glob.isMatch_ofChars_cons` — the first character takes its part, and the others match the rest;
* `Glob.isMatch_ofChars_iff` — the matcher decides whether the text can be cut up;
* `ProjectName.isMatch_iff_spelled` — what a project name or glob matches.
-/

namespace TicketTrail

namespace Glob

/-- What the characters of a written glob stand for. -/
inductive StandsFor : Char → List Char → Prop where
  | star (part : List Char) : StandsFor '*' part
  | one (d : Char) : StandsFor '\x00' [d]
  | itself {c : Char} (hStar : c ≠ '*') (hOne : c ≠ '\x00') : StandsFor c [c]

/-! ## The row of answers -/

/-- The first answer is about the whole text. -/
theorem matchSuffixes_eq_cons (glob : Glob) (s : List Char) :
    matchSuffixes glob s = isMatch glob s :: (matchSuffixes glob s).tail := by
  have hLength := length_matchSuffixes glob s
  rw [isMatch]
  cases hRow : matchSuffixes glob s with
  | nil =>
    rw [hRow] at hLength
    simp at hLength
  | cons b row => rfl

/-- What is true from some place on is asked anew of the shorter row. -/
theorem tail_anyFromHere (row : List Bool) : (anyFromHere row).tail = anyFromHere row.tail := by
  cases row <;> rfl

/-- From the start on it is true when some answer is. -/
theorem headD_anyFromHere (row : List Bool) : (anyFromHere row).headD false = row.any id := by
  cases row with
  | nil => rfl
  | cons b rest => simp [anyFromHere]

/-- A character in front of the text adds one answer to the row and changes none. -/
theorem tail_matchSuffixes_cons (glob : Glob) (c : Char) (s : List Char) :
    (matchSuffixes glob (c :: s)).tail = matchSuffixes glob s := by
  -- piece by piece, since the row of a glob is made from the row of what follows its first
  -- piece
  induction glob with
  | nil => rfl
  | cons p rest ih =>
    cases p with
    | star => rw [matchSuffixes, tail_anyFromHere, ih, matchSuffixes]
    | one =>
      rw [matchSuffixes, ih, matchSuffixes, matchSuffixes_eq_cons rest s]
      rfl
    | literal d =>
      rw [matchSuffixes, ih, matchSuffixes, matchSuffixes_eq_cons rest s]
      rfl

/-- The row of a glob holds what the glob says of every suffix. -/
theorem matchSuffixes_eq_map_tails (glob : Glob) (s : List Char) :
    matchSuffixes glob s = s.tails.map (isMatch glob) := by
  -- suffix by suffix: each row is one answer longer than that of the next suffix
  induction s with
  | nil =>
    -- the empty text has one suffix, so the row ends after its first answer
    have hTail : (matchSuffixes glob []).tail = [] := by
      rw [← List.length_eq_zero_iff, List.length_tail, length_matchSuffixes]
      rfl
    rw [matchSuffixes_eq_cons, hTail]
    rfl
  | cons c s ih =>
    rw [matchSuffixes_eq_cons, tail_matchSuffixes_cons, ih]
    rfl

/-! ## One piece in front -/

theorem isMatch_nil_iff {s : List Char} : isMatch [] s = true ↔ s = [] := by
  cases s <;> simp [isMatch, matchSuffixes]

/-- A star may take any part of the text, as long as the pieces after it match the rest. -/
theorem isMatch_star_iff {rest : Glob} {s : List Char} :
    isMatch (.star :: rest) s = true ↔
      ∃ part after, s = part ++ after ∧ isMatch rest after = true := by
  -- the star asks whether the rest matches some suffix
  rw [isMatch, matchSuffixes, headD_anyFromHere, matchSuffixes_eq_map_tails, List.any_map,
    List.any_eq_true]
  constructor
  · rintro ⟨after, hAfter, hMatch⟩
    obtain ⟨part, hPart⟩ := (List.mem_tails after s).mp hAfter
    exact ⟨part, after, hPart.symm, hMatch⟩
  · rintro ⟨part, after, rfl, hMatch⟩
    exact ⟨after, (List.mem_tails _ _).mpr (List.suffix_append part after), hMatch⟩

/-- A piece for one character takes any character. -/
theorem isMatch_one_iff {rest : Glob} {s : List Char} :
    isMatch (.one :: rest) s = true ↔ ∃ d after, s = d :: after ∧ isMatch rest after = true := by
  rw [isMatch, matchSuffixes]
  cases s with
  | nil => simp [matchSuffixes_eq_map_tails]
  | cons d after =>
    rw [tail_matchSuffixes_cons, matchSuffixes_eq_cons]
    simp

/-- A literal takes itself. -/
theorem isMatch_literal_iff {c : Char} {rest : Glob} {s : List Char} :
    isMatch (.literal c :: rest) s = true ↔
      ∃ after, s = c :: after ∧ isMatch rest after = true := by
  rw [isMatch, matchSuffixes]
  cases s with
  | nil => simp
  | cons d after =>
    rw [tail_matchSuffixes_cons, matchSuffixes_eq_cons, List.zipWith_cons_cons]
    simp only [List.cons_append, List.headD_cons, Bool.and_eq_true, beq_iff_eq, List.cons.injEq]
    constructor
    · rintro ⟨hFirst, hMatch⟩
      exact ⟨after, ⟨hFirst, rfl⟩, hMatch⟩
    · rintro ⟨_, ⟨hFirst, rfl⟩, hMatch⟩
      exact ⟨hFirst, hMatch⟩

/-! ## Written globs -/

/-- The first character of a written glob takes a part at the front of the text, and the other
characters match what is left. -/
theorem isMatch_ofChars_cons {c : Char} {g s : List Char} :
    isMatch (ofChars (c :: g)) s = true ↔
      ∃ part after, s = part ++ after ∧ StandsFor c part ∧ isMatch (ofChars g) after = true := by
  rw [ofChars, List.map_cons, ← ofChars]
  -- one case for each sort of piece that a character is written for
  by_cases hStar : c = '*'
  · subst hStar
    have hPiece : piece '*' = .star := rfl
    rw [hPiece, isMatch_star_iff]
    constructor
    · rintro ⟨part, after, hCut, hMatch⟩
      exact ⟨part, after, hCut, .star part, hMatch⟩
    · rintro ⟨part, after, hCut, -, hMatch⟩
      exact ⟨part, after, hCut, hMatch⟩
  by_cases hOne : c = '\x00'
  · subst hOne
    have hPiece : piece '\x00' = .one := rfl
    rw [hPiece, isMatch_one_iff]
    constructor
    · rintro ⟨d, after, hCut, hMatch⟩
      exact ⟨[d], after, hCut, .one d, hMatch⟩
    · rintro ⟨part, after, hCut, hPart, hMatch⟩
      cases hPart with
      | one d => exact ⟨d, after, hCut, hMatch⟩
      | itself hStar hOne => exact absurd rfl hOne
  · have hPiece : piece c = .literal c := by rw [piece, if_neg hStar, if_neg hOne]
    rw [hPiece, isMatch_literal_iff]
    constructor
    · rintro ⟨after, hCut, hMatch⟩
      exact ⟨[c], after, hCut, .itself hStar hOne, hMatch⟩
    · rintro ⟨part, after, hCut, hPart, hMatch⟩
      cases hPart with
      | star => exact absurd rfl hStar
      | one d => exact absurd rfl hOne
      | itself => exact ⟨after, hCut, hMatch⟩

/-- **The matcher decides the language of a glob.** However many stars there are and wherever they
stand, it accepts exactly the texts that can be cut into parts the characters stand for. -/
theorem isMatch_ofChars_iff {g s : List Char} :
    isMatch (ofChars g) s = true ↔
      ∃ parts : List (List Char), List.Forall₂ StandsFor g parts ∧ s = parts.flatten := by
  -- the parts are taken off the text one by one, along with the characters
  induction g generalizing s with
  | nil =>
    have hNil : isMatch (ofChars []) s = true ↔ s = [] := isMatch_nil_iff
    rw [hNil]
    constructor
    · intro hEmpty
      exact ⟨[], List.Forall₂.nil, hEmpty⟩
    · rintro ⟨parts, hParts, rfl⟩
      rw [List.forall₂_nil_left_iff.mp hParts, List.flatten_nil]
  | cons c g ih =>
    rw [isMatch_ofChars_cons]
    constructor
    · rintro ⟨part, after, rfl, hPart, hMatch⟩
      obtain ⟨parts, hParts, rfl⟩ := ih.mp hMatch
      exact ⟨part :: parts, List.Forall₂.cons hPart hParts, rfl⟩
    · rintro ⟨_, hParts, rfl⟩
      obtain ⟨part, parts, hPart, hRest, rfl⟩ := List.forall₂_cons_left_iff.mp hParts
      exact ⟨part, parts.flatten, rfl, hPart, ih.mpr ⟨parts, hRest, rfl⟩⟩

end Glob

/-- **What a project name matches.** Without a `*` in it a name matches the names that have its
lowercase. With a `*` it is a glob, and matches a project's name exactly when the lowercase of
that name can be cut into parts that the characters of the lowercased glob stand for. -/
theorem ProjectName.isMatch_iff_spelled (name : ProjectName) (project : String) :
    name.isMatch project = true ↔
      if '*' ∈ name.raw.toList then
        ∃ parts : List (List Char),
          List.Forall₂ Glob.StandsFor (Text.lower name.raw).toList parts ∧
            (Text.lower project).toList = parts.flatten
      else Text.lower name.raw = Text.lower project := by
  have hGlob : name.isGlob = true ↔ '*' ∈ name.raw.toList := by
    rw [isGlob, List.contains_iff_mem]
  rw [isMatch]
  by_cases hStar : '*' ∈ name.raw.toList
  · rw [if_pos (hGlob.mpr hStar), if_pos hStar, Glob.isMatch_ofChars_iff, Text.lower, Text.lower,
      String.toList_ofList, String.toList_ofList]
  · rw [if_neg (mt hGlob.mp hStar), if_neg hStar, beq_iff_eq, eq_comm]

/-- The `c` of the glob is the last one of the text, not the first one that a star could stop at. -/
example : ProjectName.isMatch ⟨"A*b**c"⟩ "abCabC" = true := by decide

end TicketTrail
