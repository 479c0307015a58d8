import TicketTrail.Proofs.Pattern.Reading
import TicketTrail.Proofs.Text.Trimming

/-!
# The grammar of patterns

A pattern text is cut at commas into groups and at plus signs into parts, and each
part is read by a reader that strips a negation, looks for a keyword, cuts at one
colon and then at another. The grammar says the same without an order of reading:
which texts are parts (`Condition.Derives`), and what is wrong with the others
(`Condition.Faulty`).

Every text is one or the other (`Condition.derives_or_faulty`). So it is enough that
the reader accepts what is derived and refuses what is faulty; the converses follow,
and with them that a part has one meaning or one fault.

Main results:

* `Condition.parse_eq_ok_iff_derives`, `Condition.parse_eq_error_iff_faulty` — one
  part;
* `PatternSet.parse_eq_ok_iff_derives`, `PatternSet.parse_eq_error_iff` — a whole text,
  which fails at its first faulty part;
* `PatternSet.parse_follows_grammar` — both together.
-/

namespace TicketTrail

/-! ## The grammar -/

namespace Condition

/-- The kind of condition that a type and a target say, without a direction. -/
def Word.kind (word : Word) (target : String) : Kind :=
  match word with
  | .left => .left target none
  | .entered => .entered target
  | .current => .current target
  | .been => .been target
  | .never => .never target

/-- `body := keyword | type ':' value [':' direction]`: the text is a body for the
axis, and it says the kind of condition. -/
inductive Kind.Derives (axis : OrderedAxis) : List Char → Kind → Prop where
  /-- A body may be a keyword of the axis. -/
  | keyword {d : Direction} (hDirection : d ∈ axis.directions) :
      Derives axis d.keyword.toList (.moved d)
  /-- A body may be a type and a value without a colon. -/
  | value {type value : List Char} {word : Word} (hType : Text.trimChars type = word.text.toList)
      (hValue : Text.trimChars value ≠ []) (hColon : ':' ∉ value) :
      Derives axis (type ++ ':' :: value) (word.kind (String.ofList (Text.trimChars value)))
  /-- After `from` and a value, a body may have a keyword of the axis. -/
  | direction {type value keyword : List Char} {d : Direction}
      (hType : Text.trimChars type = Word.left.text.toList)
      (hValue : Text.trimChars value ≠ []) (hColon : ':' ∉ value)
      (hDirection : d ∈ axis.directions) (hKeyword : Text.trimChars keyword = d.keyword.toList) :
      Derives axis (type ++ ':' :: (value ++ ':' :: keyword))
        (.left (String.ofList (Text.trimChars value)) (some d))

/-- What is wrong with a text that is no body for the axis. Of several faults the
one that comes first in the text is meant. -/
inductive Kind.Faulty (axis : OrderedAxis) : List Char → PatternError → Prop where
  /-- The text is no keyword of the axis and has no colon. -/
  | invalidSyntax {body : List Char} (hKeyword : ∀ d ∈ axis.directions, body ≠ d.keyword.toList)
      (hColon : ':' ∉ body) :
      Faulty axis body (.invalidSyntax axis (String.ofList body))
  /-- What stands before the first colon is no type. -/
  | unknownType {type rest : List Char} (hColon : ':' ∉ type)
      (hType : ∀ word : Word, Text.trimChars type ≠ word.text.toList) :
      Faulty axis (type ++ ':' :: rest)
        (.unknownType axis (String.ofList (Text.trimChars type)))
  /-- What follows the type, up to the next colon or the end, is blank. -/
  | missingTarget {type value rest : List Char} {word : Word}
      (hType : Text.trimChars type = word.text.toList) (hValue : Text.trimChars value = [])
      (hRest : rest = [] ∨ ∃ keyword, rest = ':' :: keyword) :
      Faulty axis (type ++ ':' :: (value ++ rest))
        (.missingTarget axis (String.ofList (type ++ ':' :: (value ++ rest))))
  /-- There is a second colon, and the type is not `from`. -/
  | directionNotAllowed {type value keyword : List Char} {word : Word}
      (hType : Text.trimChars type = word.text.toList) (hWord : word ≠ .left)
      (hValue : Text.trimChars value ≠ []) (hColon : ':' ∉ value) :
      Faulty axis (type ++ ':' :: (value ++ ':' :: keyword))
        (.directionNotAllowed (String.ofList (type ++ ':' :: (value ++ ':' :: keyword))))
  /-- What follows the second colon is no keyword of the axis. -/
  | invalidDirection {type value keyword : List Char}
      (hType : Text.trimChars type = Word.left.text.toList)
      (hValue : Text.trimChars value ≠ []) (hColon : ':' ∉ value)
      (hKeyword : ∀ d ∈ axis.directions, Text.trimChars keyword ≠ d.keyword.toList) :
      Faulty axis (type ++ ':' :: (value ++ ':' :: keyword))
        (.invalidDirection axis (String.ofList (Text.trimChars keyword)))

/-- `part := ['not:'] body`: the text is a part for the axis, and it says the
condition. Blanks after `not:` do not matter. -/
inductive Derives (axis : OrderedAxis) : List Char → Condition → Prop where
  | plain {body : List Char} {kind : Kind} (h : Kind.Derives axis body kind) :
      Derives axis body { kind, negated := false }
  | negated {rest : List Char} {kind : Kind} (h : Kind.Derives axis (Text.trimChars rest) kind) :
      Derives axis (negation.toList ++ rest) { kind, negated := true }

/-- What is wrong with a text that is no part for the axis. -/
inductive Faulty (axis : OrderedAxis) : List Char → PatternError → Prop where
  | plain {part : List Char} {e : PatternError} (hPlain : ¬ negation.toList <+: part)
      (h : Kind.Faulty axis part e) : Faulty axis part e
  | negated {rest : List Char} {e : PatternError} (h : Kind.Faulty axis (Text.trimChars rest) e) :
      Faulty axis (negation.toList ++ rest) e

/-! ## Bodies -/

/-- A text is read as a type when its trimming is the text of the type. -/
theorem Word.ofText?_trimChars {type : List Char} {word : Word} :
    ofText? (String.ofList (Text.trimChars type)) = some word ↔
      Text.trimChars type = word.text.toList := by
  rw [Word.ofText?_eq_some_iff, ← String.toList_inj, String.toList_ofList, eq_comm]

/-- A type has no colon, also with blanks around it. -/
theorem Word.colon_not_mem {type : List Char} {word : Word}
    (h : Text.trimChars type = word.text.toList) : ':' ∉ type := by
  intro hMem
  have hTrimmed := Text.mem_trimChars_of_mem hMem (by decide)
  rw [h] at hTrimmed
  cases word <;> revert hTrimmed <;> decide

theorem splitTarget_of_not_mem {value : List Char} (h : ':' ∉ value) :
    splitTarget value = (Text.trimChars value, none) := by
  rw [splitTarget, Text.cutAt?_eq_none_iff.mpr h]

/-- A colon ends the target, and the rest is taken for a direction. -/
theorem splitTarget_colon {value keyword : List Char} (h : ':' ∉ value) :
    splitTarget (value ++ ':' :: keyword) =
      (Text.trimChars value, some (Text.trimChars keyword)) := by
  rw [splitTarget, Text.cutAt?_eq_some_iff.mpr ⟨rfl, h⟩]

namespace Kind

variable {axis : OrderedAxis} {body : List Char} {kind : Kind} {e : PatternError}

/-- How a body that begins with a type is read. -/
theorem parse_of_type {type rest : List Char} {word : Word}
    (hType : Text.trimChars type = word.text.toList) :
    Kind.parse axis (type ++ ':' :: rest) =
      if (splitTarget rest).1.isEmpty then
        .error (.missingTarget axis (String.ofList (type ++ ':' :: rest)))
      else Kind.ofParts axis (type ++ ':' :: rest) word (String.ofList (splitTarget rest).1)
        (splitTarget rest).2 := by
  -- the type has no colon, so the first one is the one behind it
  have hCut : Text.cutAt? ':' (type ++ ':' :: rest) = some (type, rest) :=
    Text.cutAt?_eq_some_iff.mpr ⟨rfl, Word.colon_not_mem hType⟩
  rw [Kind.parse, keyword?_eq_none_of_colon (by simp), hCut]
  simp only [Word.ofText?_trimChars.mpr hType]

/-- What the grammar derives is read. -/
theorem parse_of_derives (h : Derives axis body kind) : Kind.parse axis body = .ok kind := by
  -- one case for each way to derive a body
  cases h with
  | keyword hDirection =>
    rw [Kind.parse, String.ofList_toList, OrderedAxis.keyword?_keyword hDirection]
  | @value type value word hType hValue hColon =>
    rw [parse_of_type hType, splitTarget_of_not_mem hColon, if_neg (by simpa using hValue)]
    cases word <;> rfl
  | direction hType hValue hColon hDirection hKeyword =>
    rw [parse_of_type hType, splitTarget_colon hColon, if_neg (by simpa using hValue)]
    simp only [Kind.ofParts, hKeyword, String.ofList_toList,
      OrderedAxis.keyword?_keyword hDirection]

/-- A text that is no keyword of the axis is not read as one. -/
theorem keyword?_eq_none_iff {word : List Char} :
    axis.keyword? (String.ofList word) = none ↔
      ∀ d ∈ axis.directions, word ≠ d.keyword.toList := by
  rw [Option.eq_none_iff_forall_ne_some]
  constructor
  · rintro h d hDirection rfl
    exact h d (OrderedAxis.keyword?_eq_some_iff.mpr ⟨hDirection, (String.ofList_toList).symm⟩)
  · intro h d hFound
    obtain ⟨hDirection, hWord⟩ := OrderedAxis.keyword?_eq_some_iff.mp hFound
    exact h d hDirection (by rw [hWord, String.toList_ofList])

/-- A faulty body is refused, for its fault. -/
theorem parse_of_faulty (h : Faulty axis body e) : Kind.parse axis body = .error e := by
  -- one case for each fault; the reader meets them in this order
  cases h with
  | invalidSyntax hKeyword hColon =>
    rw [Kind.parse, keyword?_eq_none_iff.mpr hKeyword, Text.cutAt?_eq_none_iff.mpr hColon]
  | @unknownType type rest hColon hType =>
    have hWord : Word.ofText? (String.ofList (Text.trimChars type)) = none := by
      cases hFound : Word.ofText? (String.ofList (Text.trimChars type)) with
      | none => rfl
      | some word => exact absurd (Word.ofText?_trimChars.mp hFound) (hType word)
    rw [Kind.parse, keyword?_eq_none_of_colon (by simp), Text.cutAt?_eq_some_iff.mpr ⟨rfl, hColon⟩]
    simp only [hWord]
  | @missingTarget type value rest word hType hValue hRest =>
    -- a colon is not blank, so there is none in the blank value
    have hColon : ':' ∉ value := fun hMem => by
      have := Text.mem_trimChars_of_mem hMem (by decide)
      rw [hValue] at this
      exact absurd this List.not_mem_nil
    have hTarget : (splitTarget (value ++ rest)).1 = [] := by
      rcases hRest with rfl | ⟨keyword, rfl⟩
      · rw [List.append_nil, splitTarget_of_not_mem hColon, hValue]
      · rw [splitTarget_colon hColon, hValue]
    rw [parse_of_type hType, hTarget, if_pos List.isEmpty_nil]
  | @directionNotAllowed type value keyword word hType hWord hValue hColon =>
    rw [parse_of_type hType, splitTarget_colon hColon, if_neg (by simpa using hValue)]
    cases word with
    | left => exact absurd rfl hWord
    | entered | current | been | never => rfl
  | invalidDirection hType hValue hColon hKeyword =>
    rw [parse_of_type hType, splitTarget_colon hColon, if_neg (by simpa using hValue)]
    simp only [Kind.ofParts, keyword?_eq_none_iff.mpr hKeyword]

/-- A text is a body or has a fault. -/
theorem derives_or_faulty (axis : OrderedAxis) (body : List Char) :
    (∃ kind, Derives axis body kind) ∨ ∃ e, Faulty axis body e := by
  -- the text is told by its first colon, if it has one
  cases hCut : Text.cutAt? ':' body with
  | none =>
    have hColon := Text.cutAt?_eq_none_iff.mp hCut
    by_cases hKeyword : ∃ d ∈ axis.directions, body = d.keyword.toList
    · obtain ⟨d, hDirection, rfl⟩ := hKeyword
      exact Or.inl ⟨_, .keyword hDirection⟩
    · push Not at hKeyword
      exact Or.inr ⟨_, .invalidSyntax hKeyword hColon⟩
  | some cut =>
    obtain ⟨type, rest⟩ := cut
    obtain ⟨rfl, hNoColon⟩ := Text.cutAt?_eq_some_iff.mp hCut
    by_cases hType : ∃ word : Word, Text.trimChars type = word.text.toList
    · obtain ⟨word, hType⟩ := hType
      -- the rest is a value, or a value and what follows the second colon
      cases hSecond : Text.cutAt? ':' rest with
      | none =>
        have hColon := Text.cutAt?_eq_none_iff.mp hSecond
        by_cases hValue : Text.trimChars rest = []
        · refine Or.inr ⟨.missingTarget axis (String.ofList (type ++ ':' :: rest)), ?_⟩
          simpa using @Faulty.missingTarget axis _ _ _ _ hType hValue (Or.inl rfl)
        · exact Or.inl ⟨_, .value hType hValue hColon⟩
      | some second =>
        obtain ⟨value, keyword⟩ := second
        obtain ⟨rfl, hColon⟩ := Text.cutAt?_eq_some_iff.mp hSecond
        by_cases hValue : Text.trimChars value = []
        · exact Or.inr ⟨_, .missingTarget hType hValue (Or.inr ⟨keyword, rfl⟩)⟩
        · -- only `from` may be followed by a second colon
          by_cases hWord : word = .left
          · subst hWord
            by_cases hKeyword : ∃ d ∈ axis.directions, Text.trimChars keyword = d.keyword.toList
            · obtain ⟨d, hDirection, hKeyword⟩ := hKeyword
              exact Or.inl ⟨_, .direction hType hValue hColon hDirection hKeyword⟩
            · push Not at hKeyword
              exact Or.inr ⟨_, .invalidDirection hType hValue hColon hKeyword⟩
          · exact Or.inr ⟨_, .directionNotAllowed hType hWord hValue hColon⟩
    · push Not at hType
      exact Or.inr ⟨_, .unknownType hNoColon hType⟩

end Kind

/-! ## Parts -/

variable {axis : OrderedAxis} {part : List Char} {c : Condition} {e : PatternError}

/-- `not` is no type, so the negation is no beginning of a body. -/
theorem Kind.Faulty.negation (rest : List Char) :
    Kind.Faulty axis (Condition.negation.toList ++ rest) (.unknownType axis "not") :=
  @Kind.Faulty.unknownType axis ['n', 'o', 't'] rest (by decide) fun word => by
    cases word <;> decide

/-- No body begins with the negation, which would be its type. -/
theorem Kind.Derives.not_negation {body : List Char} {kind : Kind}
    (h : Kind.Derives axis body kind) : ¬ Condition.negation.toList <+: body := by
  rintro ⟨rest, rfl⟩
  have hRead := Kind.parse_of_derives h
  rw [Kind.parse_of_faulty (Kind.Faulty.negation rest)] at hRead
  cases hRead

/-- What the grammar derives is read, with its negation or without. -/
theorem parse_of_derives (h : Derives axis part c) : Condition.parse axis part = .ok c := by
  rw [parse_eq_ok_iff]
  cases h with
  | plain h =>
    rw [splitNegation_of_plain h.not_negation]
    exact ⟨rfl, Kind.parse_of_derives h⟩
  | negated h =>
    rw [splitNegation_append]
    exact ⟨rfl, Kind.parse_of_derives h⟩

/-- A faulty part is refused, for the fault of its body. -/
theorem parse_of_faulty (h : Faulty axis part e) : Condition.parse axis part = .error e := by
  rw [parse_eq_error_iff]
  cases h with
  | plain hPlain h =>
    rw [splitNegation_of_plain hPlain]
    exact Kind.parse_of_faulty h
  | negated h =>
    rw [splitNegation_append]
    exact Kind.parse_of_faulty h

/-- A text is a part or has a fault. -/
theorem derives_or_faulty (axis : OrderedAxis) (part : List Char) :
    (∃ c, Derives axis part c) ∨ ∃ e, Faulty axis part e := by
  by_cases hPrefix : negation.toList <+: part
  · obtain ⟨rest, rfl⟩ := hPrefix
    rcases Kind.derives_or_faulty axis (Text.trimChars rest) with ⟨kind, h⟩ | ⟨e, h⟩
    · exact Or.inl ⟨_, .negated h⟩
    · exact Or.inr ⟨_, .negated h⟩
  · rcases Kind.derives_or_faulty axis part with ⟨kind, h⟩ | ⟨e, h⟩
    · exact Or.inl ⟨_, .plain h⟩
    · exact Or.inr ⟨_, .plain hPrefix h⟩

/-- A part is read as the condition that the grammar derives. -/
theorem parse_eq_ok_iff_derives : Condition.parse axis part = .ok c ↔ Derives axis part c := by
  refine ⟨fun hRead => ?_, parse_of_derives⟩
  rcases derives_or_faulty axis part with ⟨d, h⟩ | ⟨e, h⟩
  · rw [parse_of_derives h] at hRead
    cases hRead
    exact h
  · rw [parse_of_faulty h] at hRead
    cases hRead

/-- A part is refused for its fault. -/
theorem parse_eq_error_iff_faulty : Condition.parse axis part = .error e ↔ Faulty axis part e := by
  refine ⟨fun hRead => ?_, parse_of_faulty⟩
  rcases derives_or_faulty axis part with ⟨d, h⟩ | ⟨e, h⟩
  · rw [parse_of_derives h] at hRead
    cases hRead
  · rw [parse_of_faulty h] at hRead
    cases hRead
    exact h

end Condition

/-! ## Texts -/

/-- The parts of a pattern text, group by group: the text is cut at `,` and each
group at `+`, what is cut out is trimmed, and blank parts and groups without a
part are dropped. -/
def textParts (text : List Char) : List (List (List Char)) :=
  ((text.splitOn ',').map fun group =>
    ((group.splitOn '+').map Text.trimChars).filter (· ≠ [])).filter (· ≠ [])

/-- The groups that are cut out of a text are those of the grammar. -/
theorem map_toList_textGroups (text : List Char) :
    (textGroups text).map NonEmpty.toList = textParts text := by
  -- both drop empty parts, told in two ways
  have hParts : (fun group => ((List.splitOn '+' group).map Text.trimChars).filter (· ≠ [])) =
      groupParts := by
    funext group
    rw [groupParts]
    congr 1
    funext part
    cases part <;> rfl
  rw [textParts, hParts, textGroups, List.map_filterMap, List.filter_map,
    ← List.filterMap_eq_filter, List.map_filterMap]
  congr 1
  funext group
  cases hGroup : groupParts group <;> simp [NonEmpty.ofList?, NonEmpty.toList, Option.guard, hGroup]

/-- The error for a body says what is wrong with it, and never that there is none. -/
theorem Condition.Kind.Faulty.ne_empty {axis : OrderedAxis} {body : List Char} {e : PatternError}
    (h : Condition.Kind.Faulty axis body e) (a : Axis) : e ≠ .empty a ∧ e ≠ .noPatterns a := by
  cases h <;> exact ⟨nofun, nofun⟩

theorem Condition.Faulty.ne_empty {axis : OrderedAxis} {part : List Char} {e : PatternError}
    (h : Condition.Faulty axis part e) (a : Axis) : e ≠ .empty a ∧ e ≠ .noPatterns a := by
  cases h with
  | plain _ h => exact h.ne_empty a
  | negated h => exact h.ne_empty a

/-- Cutting fails on a blank text, and on any other that has no part. -/
theorem splitGroups_eq_error_iff {axis : Axis} {text : String} {e : PatternError} :
    splitGroups axis text = .error e ↔
      (Text.allBlank text = true ∧ e = .empty axis) ∨
        (Text.allBlank text = false ∧ textParts text.toList = [] ∧ e = .noPatterns axis) := by
  rw [← map_toList_textGroups, List.map_eq_nil_iff]
  -- the two checks come one after the other, blankness first
  unfold splitGroups
  split
  · next hBlank =>
    constructor
    · intro h
      cases h
      exact Or.inl ⟨hBlank, rfl⟩
    · rintro (⟨-, rfl⟩ | ⟨hNot, -⟩)
      · rfl
      · rw [hBlank] at hNot
        cases hNot
  · next hBlank =>
    rw [Bool.not_eq_true] at hBlank
    split
    · next hNone =>
      constructor
      · intro h
        cases h
        exact Or.inr ⟨hBlank, NonEmpty.ofList?_eq_none_iff.mp hNone, rfl⟩
      · rintro (⟨hAll, -⟩ | ⟨-, -, rfl⟩)
        · rw [hBlank] at hAll
          cases hAll
        · rfl
    · next groups hSome =>
      rw [NonEmpty.ofList?_eq_some_iff.mp hSome]
      simp [hBlank, groups.toList_ne_nil]

/-- Cutting fails exactly when there is no part: a blank text has none. -/
theorem textParts_eq_nil_of_error {axis : Axis} {text : String} {e : PatternError}
    (h : splitGroups axis text = .error e) : textParts text.toList = [] := by
  rcases splitGroups_eq_error_iff.mp h with ⟨hBlank, -⟩ | ⟨-, hNil, -⟩
  · rw [← map_toList_textGroups, textGroups_eq_nil_of_allBlank hBlank]
    rfl
  · exact hNil

theorem textParts_of_ok {axis : Axis} {text : String} {groups : NonEmpty (NonEmpty (List Char))}
    (h : splitGroups axis text = .ok groups) :
    textParts text.toList = groups.toList.map NonEmpty.toList := by
  rw [← map_toList_textGroups, splitGroups_eq_ok_iff.mp h]

/-- No group is without a part. -/
theorem textParts_flatten_eq_nil_iff {text : List Char} :
    (textParts text).flatten = [] ↔ textParts text = [] := by
  rw [← map_toList_textGroups]
  cases textGroups text with
  | nil => simp
  | cons group rest => simp [group.toList_ne_nil]

namespace PatternSet

variable {axis : OrderedAxis} {text : String} {e : PatternError}

/-- A text is read part by part, as the grammar derives the parts. -/
theorem parse_eq_ok_iff_derives {set : PatternSet} :
    PatternSet.parse axis text = .ok set ↔
      List.Forall₂ (fun parts p =>
        List.Forall₂ (Condition.Derives axis) parts p.conditions.toList)
        (textParts text.toList) set.patterns.toList := by
  have hRead : Pattern.ReadFrom axis = fun parts p =>
      List.Forall₂ (Condition.Derives axis) parts.toList p.conditions.toList := by
    funext parts p
    simp only [Pattern.ReadFrom, Condition.parse_eq_ok_iff_derives]
  rw [parse_eq_ok_iff, ← map_toList_textGroups, List.forall₂_map_left_iff, hRead]

/-- Reading the parts of one group. -/
def readGroup (axis : OrderedAxis) (parts : NonEmpty (List Char)) :
    Except PatternError Pattern := do
  let conditions ← parts.mapM (Condition.parse axis)
  return Pattern.mk conditions

/-- A text is read group by group. -/
theorem parse_eq_readGroup :
    PatternSet.parse axis text = (do
      let groups ← splitGroups (.ordered axis) text
      let patterns ← groups.mapM (readGroup axis)
      return ⟨patterns⟩) := rfl

/-- Reading a group fails at its first faulty part. -/
theorem readGroup_eq_error_iff {parts : NonEmpty (List Char)} :
    readGroup axis parts = .error e ↔
      FirstFailure (fun part => ∃ c, Condition.Derives axis part c) (Condition.Faulty axis)
        parts.toList e := by
  rw [readGroup, bind_eq_error_iff]
  simp only [pure, Except.pure, reduceCtorEq, and_false, exists_false, or_false,
    NonEmpty.mapM_eq_error_iff, Condition.parse_eq_ok_iff_derives,
    Condition.parse_eq_error_iff_faulty]

/-- A group is read when all its parts are derived. -/
theorem exists_readGroup_eq_ok_iff {parts : NonEmpty (List Char)} :
    (∃ p, readGroup axis parts = .ok p) ↔
      ∀ part ∈ parts.toList, ∃ c, Condition.Derives axis part c := by
  simp only [← Condition.parse_eq_ok_iff_derives]
  rw [← NonEmpty.exists_mapM_eq_ok_iff, readGroup]
  cases parts.mapM (Condition.parse axis) with
  | error e => simp [bind, Except.bind]
  | ok conditions => simp [bind, Except.bind, pure, Except.pure]

/-- Reading fails when there is no part, and at the first faulty part. -/
theorem parse_eq_error_iff :
    PatternSet.parse axis text = .error e ↔
      splitGroups (.ordered axis) text = .error e ∨
        FirstFailure (fun part => ∃ c, Condition.Derives axis part c) (Condition.Faulty axis)
          (textParts text.toList).flatten e := by
  rw [parse_eq_readGroup, bind_eq_error_iff]
  refine or_congr_right ?_
  -- either there is no part at all, or the groups are read one by one
  cases hSplit : splitGroups (.ordered axis) text with
  | error e' =>
    rw [textParts_eq_nil_of_error hSplit]
    simp [not_firstFailure_nil]
  | ok groups =>
    rw [textParts_of_ok hSplit, ← firstFailure_flatten, firstFailure_map]
    simp only [Except.ok.injEq, exists_eq_left', ← readGroup_eq_error_iff,
      ← exists_readGroup_eq_ok_iff]
    rw [← NonEmpty.mapM_eq_error_iff, bind_eq_error_iff]
    -- after the groups nothing can fail
    simp only [pure, Except.pure, reduceCtorEq, and_false, exists_false, or_false]

/-- A text is read when it has a part and all its parts are derived. -/
theorem exists_parse_eq_ok_iff :
    (∃ set, PatternSet.parse axis text = .ok set) ↔
      (textParts text.toList).flatten ≠ [] ∧
        ∀ part ∈ (textParts text.toList).flatten, ∃ c, Condition.Derives axis part c := by
  constructor
  · rintro ⟨set, hRead⟩
    rw [parse_eq_ok_iff_derives] at hRead
    constructor
    · intro hNil
      rw [textParts_flatten_eq_nil_iff.mp hNil, List.forall₂_nil_left_iff] at hRead
      exact set.patterns.toList_ne_nil hRead
    · intro part hPart
      -- a part stands in a group, and the group is read as a pattern
      obtain ⟨parts, hParts, hPart⟩ := List.mem_flatten.mp hPart
      obtain ⟨p, -, hDerives⟩ := exists_mem_left_of_forall₂ hRead.flip hParts
      obtain ⟨c, -, hc⟩ := exists_mem_left_of_forall₂ hDerives.flip hPart
      exact ⟨c, hc⟩
  · rintro ⟨hSome, hDerives⟩
    cases hRead : PatternSet.parse axis text with
    | ok set => exact ⟨set, rfl⟩
    | error e =>
      -- otherwise there is an error, which is one of two
      exfalso
      rcases parse_eq_error_iff.mp hRead with hSplit | ⟨before, part, after, hParts, -, hFaulty⟩
      · exact hSome (textParts_flatten_eq_nil_iff.mpr (textParts_eq_nil_of_error hSplit))
      · -- no part both derives and has a fault
        obtain ⟨c, hc⟩ := hDerives part (by rw [hParts]; simp)
        rw [← Condition.parse_eq_ok_iff_derives,
          Condition.parse_eq_error_iff_faulty.mpr hFaulty] at hc
        cases hc

/-- Reading with a check at the end: a set that came out without patterns is refused
with the error given. -/
def parseRefusing (refusal : PatternError) (axis : OrderedAxis) (text : String) :
    Except PatternError PatternSet := do
  let groups ← splitGroups (.ordered axis) text
  let patterns ← groups.toList.mapM fun parts => do
    let conditions ← parts.toList.mapM (Condition.parse axis)
    return (NonEmpty.ofList? conditions).map Pattern.mk
  match NonEmpty.ofList? (patterns.filterMap id) with
  | some patterns => return ⟨patterns⟩
  | none => .error refusal

/-- **Such a check has nothing to refuse**, since every group has a part. -/
theorem parseRefusing_eq_parse (refusal : PatternError) (axis : OrderedAxis) (text : String) :
    parseRefusing refusal axis text = PatternSet.parse axis text := by
  -- a group has a part, so its conditions are a pattern
  have hGroup : ∀ parts : NonEmpty (List Char),
      (do
        let conditions ← parts.toList.mapM (Condition.parse axis)
        return (NonEmpty.ofList? conditions).map Pattern.mk) = (readGroup axis parts).map some := by
    intro parts
    rw [NonEmpty.list_mapM_toList, readGroup]
    cases parts.mapM (Condition.parse axis) <;> rfl
  rw [parseRefusing, parse_eq_readGroup]
  simp only [hGroup]
  cases splitGroups (.ordered axis) text with
  | error e => rfl
  | ok groups =>
    have hMap : (groups.toList.mapM fun parts => (readGroup axis parts).map some) =
        ((groups.mapM (readGroup axis)).map NonEmpty.toList).map (List.map some) := by
      rw [list_mapM_map, NonEmpty.list_mapM_toList]
    simp only [bind, Except.bind, hMap]
    cases groups.mapM (readGroup axis) with
    | error e => rfl
    | ok patterns =>
      -- every group gave a pattern, and there was a group
      simp [Except.map, List.filterMap_map]

/-- **Reading accepts exactly the grammar and loses nothing.** Each part that is left
after cutting and trimming is read as the condition that the grammar derives, each
group as a pattern, in the order of the text; and a text is read when it has a part
and all its parts are derived. A blank text is refused as empty, any other text
without a part because it has no patterns, and a text with parts for the fault of its
first faulty part. A check for patterns at the end would find none to refuse. -/
theorem parse_follows_grammar (axis : OrderedAxis) (text : String) :
    (∀ set, PatternSet.parse axis text = .ok set ↔
      List.Forall₂ (fun parts p =>
        List.Forall₂ (Condition.Derives axis) parts p.conditions.toList)
        (textParts text.toList) set.patterns.toList) ∧
    ((∃ set, PatternSet.parse axis text = .ok set) ↔
      (textParts text.toList).flatten ≠ [] ∧
        ∀ part ∈ (textParts text.toList).flatten, ∃ c, Condition.Derives axis part c) ∧
    (PatternSet.parse axis text = .error (.empty (.ordered axis)) ↔
      Text.allBlank text = true) ∧
    (PatternSet.parse axis text = .error (.noPatterns (.ordered axis)) ↔
      Text.allBlank text = false ∧ (textParts text.toList).flatten = []) ∧
    (∀ e, (PatternSet.parse axis text = .error e ∧ e ≠ .empty (.ordered axis) ∧
        e ≠ .noPatterns (.ordered axis)) ↔
      FirstFailure (fun part => ∃ c, Condition.Derives axis part c) (Condition.Faulty axis)
        (textParts text.toList).flatten e) ∧
    ∀ refusal, parseRefusing refusal axis text = PatternSet.parse axis text := by
  -- the faults of parts are not those of texts without parts
  have hFaulty : ∀ e, FirstFailure (fun part => ∃ c, Condition.Derives axis part c)
      (Condition.Faulty axis) (textParts text.toList).flatten e →
        e ≠ .empty (.ordered axis) ∧ e ≠ .noPatterns (.ordered axis) := by
    rintro e ⟨before, part, after, -, -, h⟩
    exact h.ne_empty _
  refine ⟨fun set => parse_eq_ok_iff_derives, exists_parse_eq_ok_iff, ?_, ?_, fun e => ?_,
    fun refusal => parseRefusing_eq_parse refusal axis text⟩
  · rw [parse_eq_error_iff, splitGroups_eq_error_iff]
    constructor
    · rintro ((⟨hBlank, -⟩ | ⟨-, -, hEq⟩) | hFirst)
      · exact hBlank
      · cases hEq
      · exact absurd rfl (hFaulty _ hFirst).1
    · intro hBlank
      exact Or.inl (Or.inl ⟨hBlank, rfl⟩)
  · rw [parse_eq_error_iff, splitGroups_eq_error_iff, textParts_flatten_eq_nil_iff]
    constructor
    · rintro ((⟨-, hEq⟩ | ⟨hBlank, hNil, -⟩) | hFirst)
      · cases hEq
      · exact ⟨hBlank, hNil⟩
      · exact absurd rfl (hFaulty _ hFirst).2
    · rintro ⟨hBlank, hNil⟩
      exact Or.inl (Or.inr ⟨hBlank, hNil, rfl⟩)
  · rw [parse_eq_error_iff, splitGroups_eq_error_iff]
    constructor
    · rintro ⟨(⟨-, rfl⟩ | ⟨-, -, rfl⟩) | hFirst, hNotEmpty, hNotNone⟩
      · exact absurd rfl hNotEmpty
      · exact absurd rfl hNotNone
      · exact hFirst
    · intro hFirst
      exact ⟨Or.inr hFirst, hFaulty e hFirst⟩

example : PatternSet.parse .status " not: in: Open +raised, ,+" =
    .ok ⟨⟨⟨⟨.current "Open", true⟩, [⟨.moved .raised, false⟩]⟩, []⟩⟩ := rfl

/-- The first part at fault counts, though the second is at fault twice. -/
example : PatternSet.parse .column "been:Done + raised, in::forward" =
    .error (.invalidSyntax .column "raised") := rfl

end PatternSet

end TicketTrail
