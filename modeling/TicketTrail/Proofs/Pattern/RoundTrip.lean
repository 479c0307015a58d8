import TicketTrail.Pattern.Printer
import TicketTrail.Proofs.Pattern.Reading
import TicketTrail.Proofs.Text.Trimming
import TicketTrail.Scale

/-!
# Printing and reading patterns

A set of patterns can be built with any targets and any directions, and its text
need not be read as the same set: a comma in a target starts a new pattern, a
blank at its end is lost. This module shows where the line runs. A set comes
back from its text exactly when it is *well-formed*: its targets are trimmed,
not empty and free of `,`, `+` and `:`, and its directions are directions of the
axis.

Whatever is read is well-formed (`PatternSet.wellFormed_of_parse`), so a set that
comes back from any text at all is; that settles the hard half without a look at
how a bad target could be cut up. The other half (`PatternSet.parse_text`) follows
the text through the cuts: no condition's text has a separator in it, so joining
and cutting are inverse.

Main results:

* `PatternSet.wellFormed_of_parse` — reading gives well-formed sets only;
* `PatternSet.parse_text` — a well-formed set is read back from its text;
* `PatternSet.parse_text_eq_ok_iff` — both together, with the normal form of
  every text that is read.
-/

namespace TicketTrail

/-! ## Well-formed sets -/

/-- A target that keeps its shape in the text of a pattern. -/
structure Condition.IsTarget (target : String) : Prop where
  nonempty : target ≠ ""
  trimmed : Text.trim target = target
  noComma : ',' ∉ target.toList
  noPlus : '+' ∉ target.toList
  noColon : ':' ∉ target.toList

/-- The target, if there is one, keeps its shape, and the direction is one of the
axis. -/
structure Condition.Kind.WellFormed (axis : OrderedAxis) (kind : Condition.Kind) : Prop where
  target : ∀ t ∈ kind.target?, Condition.IsTarget t
  direction : ∀ d ∈ kind.direction?, d ∈ axis.directions

/-- Every condition of the set is well-formed, negated or not. -/
def PatternSet.WellFormed (axis : OrderedAxis) (set : PatternSet) : Prop :=
  ∀ c ∈ set.conditions, c.kind.WellFormed axis

/-! ## What is read is well-formed -/

namespace Condition

theorem trim_ofList (s : List Char) :
    Text.trim (String.ofList s) = String.ofList (Text.trimChars s) := by
  rw [Text.trim, String.toList_ofList]

/-- The target that is cut out of a text is trimmed, has no colon, and has only
characters of the text. -/
theorem splitTarget_fst {s : List Char} :
    Text.trimChars (splitTarget s).1 = (splitTarget s).1 ∧ ':' ∉ (splitTarget s).1 ∧
      ∀ c ∈ (splitTarget s).1, c ∈ s := by
  unfold splitTarget
  cases hCut : Text.cutAt? ':' s with
  | none =>
    refine ⟨Text.trimChars_trimChars s, fun hc => ?_, fun c hc => Text.mem_of_mem_trimChars hc⟩
    exact Text.cutAt?_eq_none_iff.mp hCut (Text.mem_of_mem_trimChars hc)
  | some cut =>
    obtain ⟨target, direction⟩ := cut
    obtain ⟨rfl, hColon⟩ := Text.cutAt?_eq_some_iff.mp hCut
    refine ⟨Text.trimChars_trimChars target, fun hc => hColon (Text.mem_of_mem_trimChars hc),
      fun c hc => ?_⟩
    exact List.mem_append_left _ (Text.mem_of_mem_trimChars hc)

/-- A kind that was put together has the target it was given, and a direction of the axis
if it has one. -/
theorem Kind.ofParts_eq_ok {axis : OrderedAxis} {body : List Char} {word : Word} {target : String}
    {direction : Option (List Char)} {kind : Kind}
    (h : Kind.ofParts axis body word target direction = .ok kind) :
    kind.target? = some target ∧ ∀ d ∈ kind.direction?, d ∈ axis.directions := by
  cases word with
  | left =>
    cases direction with
    | none =>
      cases h
      simp [Kind.target?, Kind.direction?]
    | some keyword =>
      simp only [Kind.ofParts] at h
      split at h
      · next d hKeyword =>
        cases h
        simpa [Kind.target?, Kind.direction?] using
          (OrderedAxis.keyword?_eq_some_iff.mp hKeyword).1
      · cases h
  | entered | current | been | never =>
    -- only `from` may be followed by a direction
    cases direction with
    | none =>
      cases h
      simp [Kind.target?, Kind.direction?]
    | some keyword => cases h

/-- A body without separators is read as a well-formed kind. -/
theorem Kind.wellFormed_of_parse {axis : OrderedAxis} {body : List Char} {kind : Kind}
    (hComma : ',' ∉ body) (hPlus : '+' ∉ body) (h : Kind.parse axis body = .ok kind) :
    kind.WellFormed axis := by
  rcases Kind.parse_eq_ok_iff.mp h with
    ⟨d, hKeyword, rfl⟩ | ⟨type, rest, word, hCut, -, hSome, hParts⟩
  · have hDirection := (OrderedAxis.keyword?_eq_some_iff.mp hKeyword).1
    exact ⟨by simp [Kind.target?], by simpa [Kind.direction?] using hDirection⟩
  · obtain ⟨hTrim, hColon, hMem⟩ := splitTarget_fst (s := rest)
    obtain ⟨rfl, -⟩ := Text.cutAt?_eq_some_iff.mp hCut
    -- the characters of the target are characters of the body
    have hIn : ∀ c ∈ (splitTarget rest).1, c ∈ type ++ ':' :: rest := fun c hc =>
      List.mem_append_right _ (List.mem_cons_of_mem _ (hMem c hc))
    obtain ⟨hTarget, hDirection⟩ := Kind.ofParts_eq_ok hParts
    refine ⟨fun t ht => ?_, hDirection⟩
    -- the only target is the one that was cut out
    rw [hTarget, Option.mem_some] at ht
    subst ht
    constructor
    · simpa using hSome
    · rw [trim_ofList, hTrim]
    · simpa using fun hc => hComma (hIn _ hc)
    · simpa using fun hc => hPlus (hIn _ hc)
    · simpa using hColon

/-- What stands behind a negation is part of the text. -/
theorem splitNegation_snd_subset {part : List Char} {c : Char} (h : c ∈ (splitNegation part).2) :
    c ∈ part := by
  by_cases hPrefix : negation.toList <+: part
  · obtain ⟨rest, rfl⟩ := hPrefix
    rw [splitNegation_append] at h
    exact List.mem_append_right _ (Text.mem_of_mem_trimChars h)
  · rwa [splitNegation_of_plain hPrefix] at h

end Condition

/-- **Reading gives well-formed sets only.** -/
theorem PatternSet.wellFormed_of_parse {axis : OrderedAxis} {text : String} {set : PatternSet}
    (h : PatternSet.parse axis text = .ok set) : set.WellFormed axis := by
  intro c hc
  obtain ⟨part, hPart, hParse⟩ := PatternSet.exists_part_of_parse h hc
  obtain ⟨-, hKind⟩ := Condition.parse_eq_ok_iff.mp hParse
  exact Condition.Kind.wellFormed_of_parse
    (fun hMem => hPart.noComma (Condition.splitNegation_snd_subset hMem))
    (fun hMem => hPart.noPlus (Condition.splitNegation_snd_subset hMem)) hKind

/-! ## What is printed is read back -/

namespace Condition

theorem Word.isPart_text (word : Word) : IsPart word.text.toList := by
  cases word <;> exact ⟨by decide, by decide, by decide, by decide⟩

theorem isPart_keyword (d : Direction) : IsPart d.keyword.toList := by
  cases d <;> exact ⟨by decide, by decide, by decide, by decide⟩

/-- A target that keeps its shape can stand in a part. -/
theorem IsTarget.isPart {target : String} (h : IsTarget target) : IsPart target.toList where
  trimmed := by
    have hTrim := congrArg String.toList h.trimmed
    rwa [Text.trim, String.toList_ofList] at hTrim
  nonempty := by
    intro hNil
    exact h.nonempty (String.toList_inj.mp hNil)
  noComma := h.noComma
  noPlus := h.noPlus

/-- What follows the target in the text of a condition. -/
def directionSuffix : Option Direction → List Char
  | none => []
  | some d => ':' :: d.keyword.toList

namespace Kind

theorem moved_or_target (kind : Kind) :
    (∃ d, kind = .moved d) ∨
      ∃ word target, kind.word? = some word ∧ kind.target? = some target := by
  cases kind <;> simp [word?, target?]

/-- The text of a condition with a target: its type, a colon, the target and perhaps a
direction. -/
theorem text_toList {kind : Kind} {word : Word} {target : String} (hWord : kind.word? = some word)
    (hTarget : kind.target? = some target) :
    kind.text.toList =
      word.text.toList ++ ':' :: (target.toList ++ directionSuffix kind.direction?) := by
  cases kind with
  | left t direction =>
    cases hWord
    cases hTarget
    cases direction <;> simp [text, direction?, directionSuffix]
  | moved d => cases hWord
  | entered t | current t | been t | never t =>
    cases hWord
    cases hTarget
    simp [text, direction?, directionSuffix]

/-- The pieces of a printed condition are put together again. -/
theorem ofParts_pieces {axis : OrderedAxis} {kind : Kind} {word : Word} {target : String}
    (body : List Char) (hWord : kind.word? = some word) (hTarget : kind.target? = some target)
    (hDirection : ∀ d ∈ kind.direction?, d ∈ axis.directions) :
    ofParts axis body word target (kind.direction?.map fun d => d.keyword.toList) = .ok kind := by
  cases kind with
  | left t direction =>
    cases hWord
    cases hTarget
    cases direction with
    | none => rfl
    | some d =>
      have hKeyword : axis.keyword? d.keyword = some d :=
        OrderedAxis.keyword?_keyword (hDirection d rfl)
      simp [ofParts, direction?, hKeyword]
  | moved d => cases hWord
  | entered t | current t | been t | never t =>
    cases hWord
    cases hTarget
    rfl

/-- Behind the type of a printed condition its target and its direction are told apart. -/
theorem splitTarget_append {target : String} (h : IsTarget target) (direction : Option Direction) :
    splitTarget (target.toList ++ directionSuffix direction) =
      (target.toList, direction.map fun d => d.keyword.toList) := by
  cases direction with
  | none =>
    have hCut : Text.cutAt? ':' (target.toList ++ directionSuffix none) = none :=
      Text.cutAt?_eq_none_iff.mpr (by simpa [directionSuffix] using h.noColon)
    rw [splitTarget, hCut]
    simp [directionSuffix, h.isPart.trimmed]
  | some d =>
    -- the target has no colon of its own, so the cut falls right after it
    have hCut : Text.cutAt? ':' (target.toList ++ directionSuffix (some d)) =
        some (target.toList, d.keyword.toList) :=
      Text.cutAt?_eq_some_iff.mpr ⟨rfl, h.noColon⟩
    rw [splitTarget, hCut]
    simp [h.isPart.trimmed, (isPart_keyword d).trimmed]

/-- A well-formed kind is read back from its text. -/
theorem parse_text {axis : OrderedAxis} {kind : Kind} (h : kind.WellFormed axis) :
    Kind.parse axis kind.text.toList = .ok kind := by
  rw [Kind.parse_eq_ok_iff]
  rcases kind.moved_or_target with ⟨d, rfl⟩ | ⟨word, target, hWord, hTarget⟩
  · refine Or.inl ⟨d, ?_, rfl⟩
    rw [String.ofList_toList]
    exact OrderedAxis.keyword?_keyword (h.direction d rfl)
  · have hIs : IsTarget target := h.target target hTarget
    refine Or.inr ⟨word.text.toList, target.toList ++ directionSuffix kind.direction?, word, ?_⟩
    rw [splitTarget_append hIs, text_toList hWord hTarget, (Word.isPart_text word).trimmed,
      String.ofList_toList, String.ofList_toList]
    -- no word has a colon, so the first colon is the one after the word
    refine ⟨Text.cutAt?_eq_some_iff.mpr ⟨rfl, ?_⟩, Word.ofText?_text word, hIs.isPart.nonempty,
      ofParts_pieces _ hWord hTarget h.direction⟩
    cases word <;> decide

/-- The text of a well-formed kind is a part. -/
theorem isPart_text {axis : OrderedAxis} {kind : Kind} (h : kind.WellFormed axis) :
    IsPart kind.text.toList := by
  rcases kind.moved_or_target with ⟨d, rfl⟩ | ⟨word, target, hWord, hTarget⟩
  · exact isPart_keyword d
  · have hTargetPart := (h.target target hTarget).isPart
    have hWordPart := Word.isPart_text word
    rw [text_toList hWord hTarget]
    -- a text that begins with the word and ends with the target or the keyword is
    -- trimmed at both ends, whatever stands between
    cases kind.direction? with
    | none =>
      rw [directionSuffix, List.append_nil]
      refine ⟨?_, by simp, by simp [hWordPart.noComma, hTargetPart.noComma],
        by simp [hWordPart.noPlus, hTargetPart.noPlus]⟩
      simpa using Text.trimChars_between [':'] hWordPart.nonempty hTargetPart.nonempty
        hWordPart.trimmed hTargetPart.trimmed
    | some d =>
      have hKeyword := isPart_keyword d
      rw [directionSuffix]
      refine ⟨?_, by simp, by simp [hWordPart.noComma, hTargetPart.noComma, hKeyword.noComma],
        by simp [hWordPart.noPlus, hTargetPart.noPlus, hKeyword.noPlus]⟩
      simpa using Text.trimChars_between (':' :: (target.toList ++ [':'])) hWordPart.nonempty
        hKeyword.nonempty hWordPart.trimmed hKeyword.trimmed

/-- No text without a negation begins like one that has it: `never` and `not:` part
after their first letter. -/
theorem not_negation_prefix_text (kind : Kind) : ¬ negation.toList <+: kind.text.toList := by
  rcases kind.moved_or_target with ⟨d, rfl⟩ | ⟨word, target, hWord, hTarget⟩
  · cases d <;> decide
  · rw [text_toList hWord hTarget]
    cases word <;> simp [negation, Word.text]

end Kind

/-- A condition is printed with its negation, if it has one, in front. -/
theorem text_toList (c : Condition) :
    c.text.toList = (if c.negated then negation.toList else []) ++ c.kind.text.toList := by
  rw [Condition.text, String.toList_append]
  split <;> rfl

/-- A condition is read back from its text, negated or not. -/
theorem parse_text {axis : OrderedAxis} {c : Condition} (h : c.kind.WellFormed axis) :
    Condition.parse axis c.text.toList = .ok c := by
  rw [Condition.parse_eq_ok_iff, text_toList]
  cases hNegated : c.negated with
  | false =>
    rw [if_neg Bool.false_ne_true, List.nil_append,
      splitNegation_of_plain c.kind.not_negation_prefix_text]
    exact ⟨rfl, Kind.parse_text h⟩
  | true =>
    rw [if_pos rfl, splitNegation_append, (Kind.isPart_text h).trimmed]
    exact ⟨rfl, Kind.parse_text h⟩

/-- The text of a condition is a part, negated or not. -/
theorem isPart_text {axis : OrderedAxis} {c : Condition} (h : c.kind.WellFormed axis) :
    IsPart c.text.toList := by
  have hKind := Kind.isPart_text h
  rw [text_toList]
  cases c.negated with
  | false => simpa using hKind
  | true =>
    -- the text begins with the trimmed `not:` and ends with the trimmed kind
    rw [if_pos rfl]
    refine ⟨?_, by simp [hKind.nonempty], ?_, ?_⟩
    · simpa using Text.trimChars_between [] (by decide) hKind.nonempty
        (by decide : Text.trimChars negation.toList = negation.toList) hKind.trimmed
    · rw [List.mem_append, not_or]
      exact ⟨by decide, hKind.noComma⟩
    · rw [List.mem_append, not_or]
      exact ⟨by decide, hKind.noPlus⟩

end Condition

/-! ### Cutting what was joined -/

/-- A pattern is printed as its conditions with plus signs between them. -/
theorem Pattern.text_toList (p : Pattern) :
    p.text.toList = ['+'].intercalate (p.conditions.toList.map fun c => c.text.toList) := by
  rw [Pattern.text, String.toList_intercalate, List.map_map]
  rfl

/-- A set is printed as its patterns with commas between them. -/
theorem PatternSet.text_toList (set : PatternSet) :
    set.text.toList = [','].intercalate (set.patterns.toList.map fun p => p.text.toList) := by
  rw [PatternSet.text, String.toList_intercalate, List.map_map]
  rfl

/-- The text of a well-formed set is cut into the texts of its conditions. -/
theorem PatternSet.textGroups_text {axis : OrderedAxis} {set : PatternSet}
    (h : set.WellFormed axis) :
    textGroups set.text.toList =
      set.patterns.toList.map fun p => p.conditions.map fun c => c.text.toList := by
  have hText : set.text.toList = [','].intercalate
      ((set.patterns.toList.map fun p => p.conditions.map fun c => c.text.toList).map
        fun parts => ['+'].intercalate parts.toList) := by
    rw [PatternSet.text_toList, List.map_map]
    congr 2
    funext p
    rw [Pattern.text_toList, Function.comp_apply, NonEmpty.toList_map]
  rw [hText]
  -- no condition's text has a separator in it, so the cuts undo the joins
  refine textGroups_intercalate (by simpa using set.patterns.toList_ne_nil) fun parts hParts => ?_
  obtain ⟨p, hp, rfl⟩ := List.mem_map.mp hParts
  rw [NonEmpty.toList_map]
  refine List.forall_mem_map.mpr fun c hc => ?_
  exact Condition.isPart_text (h c (List.mem_flatMap.mpr ⟨p, hp, hc⟩))

/-- **A well-formed set is read back from its text.** -/
theorem PatternSet.parse_text {axis : OrderedAxis} {set : PatternSet} (h : set.WellFormed axis) :
    PatternSet.parse axis set.text = .ok set := by
  rw [PatternSet.parse_eq_ok_iff, PatternSet.textGroups_text h, List.forall₂_map_left_iff,
    List.forall₂_same]
  -- the pieces are the printed conditions, so what is left is to read each of them
  intro p hp
  rw [Pattern.ReadFrom, NonEmpty.toList_map, List.forall₂_map_left_iff, List.forall₂_same]
  intro c hc
  exact Condition.parse_text (h c (List.mem_flatMap.mpr ⟨p, hp, hc⟩))

/-- **Printing and reading are inverse exactly on the well-formed sets.** Whatever
the ranks of the scale are, a set comes back from its text when its targets and
directions keep their shape, and never otherwise; so what was read from a text is
read again from its normal form. -/
theorem PatternSet.parse_text_eq_ok_iff (scale : Scale) (set : PatternSet) :
    (PatternSet.parse scale.axis set.text = .ok set ↔ set.WellFormed scale.axis) ∧
      ∀ text, (PatternSet.parse scale.axis text >>= fun read =>
        PatternSet.parse scale.axis read.text) = PatternSet.parse scale.axis text := by
  refine ⟨⟨PatternSet.wellFormed_of_parse, PatternSet.parse_text⟩, fun text => ?_⟩
  cases hRead : PatternSet.parse scale.axis text with
  | error e => rfl
  | ok read => exact PatternSet.parse_text (PatternSet.wellFormed_of_parse hRead)

/-- A target with separators in it is read as two patterns, each in good shape. -/
example :
    PatternSet.parse .column
        (PatternSet.mk ⟨⟨⟨⟨.entered "Doing,been:Done", false⟩, []⟩⟩, []⟩).text =
      .ok ⟨⟨⟨⟨⟨.entered "Doing", false⟩, []⟩⟩, [⟨⟨⟨.been "Done", false⟩, []⟩⟩]⟩⟩ := rfl

end TicketTrail
