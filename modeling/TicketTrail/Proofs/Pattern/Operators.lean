import TicketTrail.Proofs.Pattern.Matching
import TicketTrail.Proofs.Pattern.Reading
import TicketTrail.Proofs.Text.Trimming

/-!
# The operators of the pattern text

Joining two pattern texts with `,` gives the patterns of both, joining two
single patterns with `+` gives one pattern with the conditions of both, and
`not:` before a single condition flips it. Blank groups, stray separators and
blanks at the seams are dropped by the cuts and change nothing. On a ticket's
moves the three are *or*, *and* and *not*.

Main results:

* `PatternSet.parse_comma`, `PatternSet.parse_plus`, `PatternSet.parse_negation` —
  what the joined texts are read as;
* `PatternSet.holds_union`, `PatternSet.holds_both`, `PatternSet.holds_flipped` —
  when what was read holds.
-/

namespace TicketTrail

/-! ## Joining sets and patterns -/

/-- The entries of both lists, one list after the other. -/
def NonEmpty.append {α : Type} (l m : NonEmpty α) : NonEmpty α :=
  ⟨l.head, l.tail ++ m.toList⟩

@[simp] theorem NonEmpty.toList_append {α : Type} (l m : NonEmpty α) :
    (l.append m).toList = l.toList ++ m.toList := rfl

/-- The pattern with the conditions of both. -/
def Pattern.both (a b : Pattern) : Pattern :=
  ⟨a.conditions.append b.conditions⟩

/-- The pattern of a single condition. -/
def Pattern.ofCondition (c : Condition) : Pattern :=
  ⟨⟨c, []⟩⟩

namespace PatternSet

/-- The set with the patterns of both. -/
def union (p q : PatternSet) : PatternSet :=
  ⟨p.patterns.append q.patterns⟩

/-- The set of a single pattern. -/
def ofPattern (p : Pattern) : PatternSet :=
  ⟨⟨p, []⟩⟩

end PatternSet

/-! ## Reading joined texts -/

namespace PatternSet

variable {axis : OrderedAxis} {p q : String} {P Q : PatternSet}

/-- **A comma joins sets**: the text on either side of it is read as by itself. -/
theorem parse_comma (hp : PatternSet.parse axis p = .ok P) (hq : PatternSet.parse axis q = .ok Q) :
    PatternSet.parse axis (p ++ "," ++ q) = .ok (P.union Q) := by
  rw [parse_eq_ok_iff] at hp hq ⊢
  have hText : (p ++ "," ++ q).toList = p.toList ++ ',' :: q.toList := by simp
  -- blank groups are dropped on either side, so none can arise at the seam
  rw [hText, textGroups_append_comma]
  exact List.rel_append hp hq

/-- A text without a comma is read as a single pattern, from all its parts. -/
theorem parse_eq_ok_iff_of_not_mem (hComma : ',' ∉ p.toList) :
    PatternSet.parse axis p = .ok P ↔
      ∃ parts pattern, groupParts p.toList = parts.toList ∧ Pattern.ReadFrom axis parts pattern ∧
        P = ofPattern pattern := by
  rw [parse_eq_ok_iff, textGroups_of_not_mem hComma]
  constructor
  · intro h
    cases hParts : NonEmpty.ofList? (groupParts p.toList) with
    | none =>
      -- without a part there is no group, and a set has a pattern
      rw [hParts, Option.toList_none, List.forall₂_nil_left_iff] at h
      exact absurd h P.patterns.toList_ne_nil
    | some parts =>
      rw [hParts, Option.toList_some] at h
      obtain ⟨pattern, hRead, hPatterns⟩ := NonEmpty.forall₂_singleton.mp h
      exact ⟨parts, pattern, NonEmpty.ofList?_eq_some_iff.mp hParts, hRead,
        congrArg PatternSet.mk hPatterns⟩
  · rintro ⟨parts, pattern, hParts, hRead, rfl⟩
    rw [NonEmpty.ofList?_eq_some_iff.mpr hParts]
    exact List.Forall₂.cons hRead List.Forall₂.nil

/-- **A plus sign joins patterns**: two texts of one pattern each are read as the pattern
with the conditions of both. -/
theorem parse_plus (hp : PatternSet.parse axis p = .ok P) (hq : PatternSet.parse axis q = .ok Q)
    (hpComma : ',' ∉ p.toList) (hqComma : ',' ∉ q.toList) :
    ∃ a b, P = ofPattern a ∧ Q = ofPattern b ∧
      PatternSet.parse axis (p ++ "+" ++ q) = .ok (ofPattern (a.both b)) := by
  obtain ⟨partsP, a, hPartsP, hReadP, rfl⟩ := (parse_eq_ok_iff_of_not_mem hpComma).mp hp
  obtain ⟨partsQ, b, hPartsQ, hReadQ, rfl⟩ := (parse_eq_ok_iff_of_not_mem hqComma).mp hq
  have hText : (p ++ "+" ++ q).toList = p.toList ++ '+' :: q.toList := by simp
  have hComma : ',' ∉ (p ++ "+" ++ q).toList := by
    rw [hText]
    simp [hpComma, hqComma]
  -- one group is cut into the parts of both
  refine ⟨a, b, rfl, rfl, (parse_eq_ok_iff_of_not_mem hComma).mpr
    ⟨partsP.append partsQ, a.both b, ?_, List.rel_append hReadP hReadQ, rfl⟩⟩
  rw [hText, groupParts_append_plus, hPartsP, hPartsQ, NonEmpty.toList_append]

/-- A text without separators has one part, its trimming. -/
theorem parse_eq_ok_iff_of_plain (hComma : ',' ∉ p.toList) (hPlus : '+' ∉ p.toList) :
    PatternSet.parse axis p = .ok P ↔
      Text.trimChars p.toList ≠ [] ∧ ∃ c, Condition.parse axis (Text.trimChars p.toList) = .ok c ∧
        P = ofPattern (.ofCondition c) := by
  rw [parse_eq_ok_iff_of_not_mem hComma]
  have hParts : groupParts p.toList = [Text.trimChars p.toList].filter (!·.isEmpty) := by
    rw [groupParts, List.splitOn_eq_singleton hPlus]
    rfl
  rw [hParts]
  -- a blank text has no part, and no set is read from it
  by_cases hBlank : Text.trimChars p.toList = []
  · simp [hBlank, (NonEmpty.toList_ne_nil _).symm]
  · have hFilter : [Text.trimChars p.toList].filter (!·.isEmpty) =
        NonEmpty.toList ⟨Text.trimChars p.toList, []⟩ := by simp [hBlank]
    rw [hFilter]
    constructor
    · rintro ⟨parts, pattern, hEq, hRead, rfl⟩
      cases NonEmpty.toList_injective hEq
      obtain ⟨c, hc, hConditions⟩ := NonEmpty.forall₂_singleton.mp hRead
      exact ⟨hBlank, c, hc, congrArg ofPattern (congrArg Pattern.mk hConditions)⟩
    · rintro ⟨-, c, hc, rfl⟩
      exact ⟨_, _, rfl, List.Forall₂.cons hc List.Forall₂.nil, rfl⟩

/-- `not:` before a single condition that has none flips it. -/
theorem parse_negation (hp : PatternSet.parse axis p = .ok P) (hComma : ',' ∉ p.toList)
    (hPlus : '+' ∉ p.toList)
    (hPlain : ¬ Condition.negation.toList <+: (Text.trim p).toList) :
    ∃ c, P = ofPattern (.ofCondition c) ∧
      PatternSet.parse axis (Condition.negation ++ p) =
        .ok (ofPattern (.ofCondition c.negate)) := by
  rw [Text.trim, String.toList_ofList] at hPlain
  obtain ⟨hBlank, c, hc, rfl⟩ := (parse_eq_ok_iff_of_plain hComma hPlus).mp hp
  refine ⟨c, rfl, ?_⟩
  have hText : (Condition.negation ++ p).toList = Condition.negation.toList ++ p.toList :=
    String.toList_append
  -- trimming moves past the negation and trims what it negates
  obtain ⟨rest, hTrim, hRest⟩ := Text.exists_trimChars_append (a := Condition.negation.toList)
    (by decide) (by decide) hBlank
  rw [parse_eq_ok_iff_of_plain, hText, hTrim]
  · refine ⟨by simp [Condition.negation], c.negate, ?_, rfl⟩
    rw [Condition.parse_eq_ok_iff, Condition.splitNegation_of_plain hPlain] at hc
    rw [Condition.parse_eq_ok_iff, Condition.splitNegation_append, hRest]
    refine ⟨?_, hc.2⟩
    -- the condition had no negation of its own
    show true = !c.negated
    rw [← hc.1]
    rfl
  · rw [hText, List.mem_append, not_or]
    exact ⟨by decide, hComma⟩
  · rw [hText, List.mem_append, not_or]
    exact ⟨by decide, hPlus⟩

end PatternSet

/-! ## When joined sets hold -/

namespace PatternSet

variable (scale : Scale) (moves : List Move) (now : Option String)

theorem holds_eq_any (set : PatternSet) :
    set.holds scale moves now = set.patterns.toList.any (Pattern.holds scale moves now) :=
  findMatch?_isSome scale moves now set

/-- The union of two sets holds when one of them does. -/
theorem holds_union (p q : PatternSet) :
    (p.union q).holds scale moves now = (p.holds scale moves now || q.holds scale moves now) := by
  rw [holds_eq_any, holds_eq_any, holds_eq_any, union, NonEmpty.toList_append, List.any_append]

theorem holds_ofPattern (a : Pattern) :
    (ofPattern a).holds scale moves now = a.holds scale moves now := by
  rw [holds_eq_any]
  simp [ofPattern]

/-- A pattern with the conditions of two holds when both do. -/
theorem holds_both (a b : Pattern) :
    (ofPattern (a.both b)).holds scale moves now =
      ((ofPattern a).holds scale moves now && (ofPattern b).holds scale moves now) := by
  rw [holds_ofPattern, holds_ofPattern, holds_ofPattern, Pattern.holds, Pattern.both,
    NonEmpty.toList_append, List.all_append]
  rfl

/-- A condition that is flipped holds when it did not. -/
theorem holds_flipped (c : Condition) :
    (ofPattern (.ofCondition c.negate)).holds scale moves now =
      !(ofPattern (.ofCondition c)).holds scale moves now := by
  rw [holds_ofPattern, holds_ofPattern, Pattern.holds, Pattern.holds]
  simp [Pattern.ofCondition, Condition.holds_negate]

/-- Of two sets together, the pattern of the first is reported if it has one that
holds, and else that of the second. -/
theorem pattern_union (p q : PatternSet) :
    ((p.union q).findMatch? scale moves now).map PatternMatch.pattern =
      ((p.findMatch? scale moves now).map PatternMatch.pattern).or
        ((q.findMatch? scale moves now).map PatternMatch.pattern) := by
  rw [findMatch?_pattern, findMatch?_pattern, findMatch?_pattern, union, NonEmpty.toList_append,
    List.find?_append]

end PatternSet

end TicketTrail
