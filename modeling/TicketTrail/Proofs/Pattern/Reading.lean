import TicketTrail.Pattern.Parser
import TicketTrail.Proofs.FirstFailure
import TicketTrail.Proofs.Text.Trimming

/-!
# Reading, piece by piece

`PatternSet.parse` cuts a text into groups and parts and reads every part, and
the first fault ends it. This module takes the fault handling away: a text is
read as a set exactly when its groups are read, one by one, as the patterns of
the set, and a group exactly when its parts are read as the conditions.

Main results:

* `PatternSet.parse_eq_ok_iff` — the pointwise form of reading, over the groups
  that `textGroups` cuts;
* `Condition.Kind.parse_eq_ok_iff` — what a body is cut into when it is read;
* `isPart_of_mem_textGroups` — every part that is read is trimmed, not empty and
  free of `,` and `+`;
* `textGroups_append_comma`, `groupParts_append_plus` — what joining two texts
  does to the groups and the parts;
* `textGroups_intercalate` — what is joined from parts is cut into them;
* `splitGroups_trim` — blanks around a text do not matter.
-/

namespace TicketTrail

/-! ## Groups and parts -/

/-- A piece of a cut text has only characters of the text, and not the one it
was cut at. -/
theorem mem_of_mem_splitOn {sep c : Char} {s piece : List Char} (hPiece : piece ∈ s.splitOn sep)
    (hc : c ∈ piece) : c ∈ s ∧ c ≠ sep := by
  -- the text is cut from its front, one character after another
  induction s generalizing piece with
  | nil =>
    rw [List.splitOn_nil, List.mem_singleton] at hPiece
    simp [hPiece] at hc
  | cons d rest ih =>
    rw [List.splitOn_cons_eq_if_modifyHead] at hPiece
    split at hPiece
    · -- at the separator a new piece begins, empty so far
      rcases List.mem_cons.mp hPiece with rfl | hPiece
      · simp at hc
      · exact ⟨List.mem_cons_of_mem _ (ih hPiece hc).1, (ih hPiece hc).2⟩
    · next hSep =>
      -- any other character joins the first piece of what follows
      obtain ⟨first, others, hSplit⟩ := List.exists_cons_of_ne_nil (List.splitOn_ne_nil sep rest)
      rw [hSplit, List.modifyHead_cons] at hPiece
      rcases List.mem_cons.mp hPiece with rfl | hPiece
      · rcases List.mem_cons.mp hc with rfl | hc
        · exact ⟨List.mem_cons_self, by simpa using hSep⟩
        · have hFirst : first ∈ rest.splitOn sep := by simp [hSplit]
          have := ih hFirst hc
          exact ⟨List.mem_cons_of_mem _ this.1, this.2⟩
      · have := ih (by rw [hSplit]; exact List.mem_cons_of_mem _ hPiece) hc
        exact ⟨List.mem_cons_of_mem _ this.1, this.2⟩

theorem mem_groupParts {group part : List Char} :
    part ∈ groupParts group ↔
      (∃ piece ∈ group.splitOn '+', Text.trimChars piece = part) ∧ part ≠ [] := by
  simp [groupParts]

/-- The groups of a text are the parts of its pieces, where there are some. -/
theorem mem_textGroups {text : List Char} {parts : NonEmpty (List Char)} :
    parts ∈ textGroups text ↔ ∃ group ∈ text.splitOn ',', groupParts group = parts.toList := by
  simp [textGroups, NonEmpty.ofList?_eq_some_iff]

/-- What a part of a pattern text is like, whatever the text. -/
structure IsPart (part : List Char) : Prop where
  trimmed : Text.trimChars part = part
  nonempty : part ≠ []
  noComma : ',' ∉ part
  noPlus : '+' ∉ part

/-- Where a part of a text comes from: its characters are characters of the text,
and its group and its piece are cut free of the separators. -/
theorem mem_text_of_mem_part {text : List Char} {parts : NonEmpty (List Char)} {part : List Char}
    {c : Char} (hGroup : parts ∈ textGroups text) (hPart : part ∈ parts.toList) (hc : c ∈ part) :
    c ∈ text ∧ c ≠ ',' ∧ c ≠ '+' := by
  obtain ⟨group, hMem, hParts⟩ := mem_textGroups.mp hGroup
  rw [← hParts] at hPart
  obtain ⟨⟨piece, hPiece, rfl⟩, -⟩ := mem_groupParts.mp hPart
  have hInGroup := mem_of_mem_splitOn hPiece (Text.mem_of_mem_trimChars hc)
  have hInText := mem_of_mem_splitOn hMem hInGroup.1
  exact ⟨hInText.1, hInText.2, hInGroup.2⟩

/-- Whatever the text is, its parts are trimmed, not empty and free of separators. -/
theorem isPart_of_mem_textGroups {text : List Char} {parts : NonEmpty (List Char)}
    {part : List Char} (hGroup : parts ∈ textGroups text) (hPart : part ∈ parts.toList) :
    IsPart part where
  trimmed := by
    obtain ⟨group, -, hParts⟩ := mem_textGroups.mp hGroup
    rw [← hParts] at hPart
    obtain ⟨⟨piece, -, rfl⟩, -⟩ := mem_groupParts.mp hPart
    exact Text.trimChars_trimChars piece
  nonempty := by
    obtain ⟨group, -, hParts⟩ := mem_textGroups.mp hGroup
    rw [← hParts] at hPart
    exact (mem_groupParts.mp hPart).2
  noComma := fun hc => (mem_text_of_mem_part hGroup hPart hc).2.1 rfl
  noPlus := fun hc => (mem_text_of_mem_part hGroup hPart hc).2.2 rfl

/-- A blank text has no groups: a part of it would have a first character, which
is not blank. -/
theorem textGroups_eq_nil_of_allBlank {text : String} (h : Text.allBlank text = true) :
    textGroups text.toList = [] := by
  rw [Text.allBlank, List.all_eq_true] at h
  refine List.eq_nil_iff_forall_not_mem.mpr fun parts hGroup => ?_
  have hPart : parts.head ∈ parts.toList := by simp [NonEmpty.toList]
  have hIs := isPart_of_mem_textGroups hGroup hPart
  obtain ⟨c, rest, hCons⟩ := List.exists_cons_of_ne_nil hIs.nonempty
  have hBlank := h c (mem_text_of_mem_part hGroup hPart (by simp [hCons])).1
  -- but a trimmed part does not begin with a blank
  have hNot : Text.isBlank c = false :=
    Text.trimChars_head? (s := parts.head) (by rw [hIs.trimmed, hCons]; rfl)
  rw [hNot] at hBlank
  exact Bool.false_ne_true hBlank

/-- A text is cut into its groups, if it has any. -/
theorem splitGroups_eq_ok_iff {axis : Axis} {text : String}
    {groups : NonEmpty (NonEmpty (List Char))} :
    splitGroups axis text = .ok groups ↔ textGroups text.toList = groups.toList := by
  unfold splitGroups
  split
  · next hBlank =>
    rw [textGroups_eq_nil_of_allBlank hBlank]
    simp [groups.toList_ne_nil.symm]
  · split
    · next hNone =>
      rw [NonEmpty.ofList?_eq_none_iff.mp hNone]
      simp [groups.toList_ne_nil.symm]
    · next found hSome =>
      rw [NonEmpty.ofList?_eq_some_iff.mp hSome, Except.ok.injEq]
      exact ⟨fun h => by rw [h], NonEmpty.toList_injective⟩

/-! ### Joining texts -/

/-- Joining two texts with a comma puts their groups together. -/
theorem textGroups_append_comma (a b : List Char) :
    textGroups (a ++ ',' :: b) = textGroups a ++ textGroups b := by
  rw [textGroups, List.splitOn_append_cons_self, List.filterMap_append]
  rfl

/-- Joining two groups with a plus sign puts their parts together. -/
theorem groupParts_append_plus (a b : List Char) :
    groupParts (a ++ '+' :: b) = groupParts a ++ groupParts b := by
  rw [groupParts, List.splitOn_append_cons_self, List.map_append, List.filter_append]
  rfl

/-- A text without a comma has at most one group, that of all its parts. -/
theorem textGroups_of_not_mem {text : List Char} (h : ',' ∉ text) :
    textGroups text = (NonEmpty.ofList? (groupParts text)).toList := by
  rw [textGroups, List.splitOn_eq_singleton h]
  cases hParts : NonEmpty.ofList? (groupParts text) with
  | none => simp [hParts]
  | some parts => simp [hParts]

/-! ### Cutting what was joined -/

/-- A character of joined pieces is a character of one of them, or the separator. -/
theorem mem_intercalate {sep c : Char} {pieces : List (List Char)}
    (h : c ∈ [sep].intercalate pieces) : c = sep ∨ ∃ piece ∈ pieces, c ∈ piece := by
  -- a separator stands behind every piece but the last
  induction pieces with
  | nil => simp at h
  | cons piece rest ih =>
    cases rest with
    | nil =>
      rw [List.intercalate_singleton] at h
      exact Or.inr ⟨piece, List.mem_cons_self, h⟩
    | cons next rest =>
      rw [List.intercalate_cons_cons, List.append_assoc, List.mem_append, List.mem_append,
        List.mem_singleton] at h
      rcases h with h | h | h
      · exact Or.inr ⟨piece, List.mem_cons_self, h⟩
      · exact Or.inl h
      · rcases ih h with h | ⟨other, hOther, h⟩
        · exact Or.inl h
        · exact Or.inr ⟨other, List.mem_cons_of_mem _ hOther, h⟩

/-- Cutting a group at `+` undoes the join of its parts, and trimming finds nothing to
do. -/
theorem groupParts_intercalate {parts : NonEmpty (List Char)}
    (h : ∀ part ∈ parts.toList, IsPart part) :
    groupParts (['+'].intercalate parts.toList) = parts.toList := by
  rw [groupParts, List.splitOn_intercalate _ (fun part hPart => (h part hPart).noPlus)
    parts.toList_ne_nil]
  have hTrim : ∀ part ∈ parts.toList, Text.trimChars part = id part := fun part hPart =>
    (h part hPart).trimmed
  rw [List.map_congr_left hTrim, List.map_id, List.filter_eq_self]
  intro part hPart
  simpa using (h part hPart).nonempty

/-- **What is joined from parts is cut into them.** -/
theorem textGroups_intercalate {groups : List (NonEmpty (List Char))} (hSome : groups ≠ [])
    (h : ∀ parts ∈ groups, ∀ part ∈ parts.toList, IsPart part) :
    textGroups ([','].intercalate (groups.map fun parts => ['+'].intercalate parts.toList)) =
      groups := by
  have hNoComma : ∀ piece ∈ groups.map fun parts => ['+'].intercalate parts.toList,
      ',' ∉ piece := by
    intro piece hPiece hMem
    obtain ⟨parts, hParts, rfl⟩ := List.mem_map.mp hPiece
    -- a comma would be the `+` between two parts or stand in one of them
    rcases mem_intercalate hMem with hEq | ⟨part, hPart, hMem⟩
    · exact absurd hEq (by decide)
    · exact (h parts hParts part hPart).noComma hMem
  -- so cutting at `,` undoes the join, and every group has its parts
  rw [textGroups, List.splitOn_intercalate _ hNoComma (by simpa using hSome), List.filterMap_map]
  have hEach : ∀ parts ∈ groups, NonEmpty.ofList? (groupParts (['+'].intercalate parts.toList)) =
      some parts := by
    intro parts hParts
    rw [groupParts_intercalate (h parts hParts), NonEmpty.ofList?_toList]
  exact (List.filterMap_congr hEach).trans List.filterMap_some

/-! ### Blanks around a text -/

/-- Blanks around a group do not matter to its parts. -/
theorem groupParts_congr {group group' : List Char} (h : Text.Surrounded group group') :
    groupParts group' = groupParts group := by
  -- the blanks end up around the first and the last piece, where they are trimmed off
  have hCut : List.Forall₂ Text.Surrounded (group.splitOn '+') (group'.splitOn '+') :=
    Text.splitOn_surrounded (by decide) h
  have hTrim : (group'.splitOn '+').map Text.trimChars =
      (group.splitOn '+').map Text.trimChars := by
    rw [← List.forall₂_eq_eq_eq, List.forall₂_map_left_iff, List.forall₂_map_right_iff]
    exact hCut.flip.imp fun _ _ hPiece => Text.trimChars_congr hPiece
  rw [groupParts, groupParts, hTrim]

/-- Blanks around a text do not matter to its groups. -/
theorem textGroups_congr {text text' : List Char} (h : Text.Surrounded text text') :
    textGroups text' = textGroups text := by
  -- the blanks end up around the first and the last group
  have hCut : List.Forall₂ Text.Surrounded (text.splitOn ',') (text'.splitOn ',') :=
    Text.splitOn_surrounded (by decide) h
  have hParts : (text'.splitOn ',').map groupParts = (text.splitOn ',').map groupParts := by
    rw [← List.forall₂_eq_eq_eq, List.forall₂_map_left_iff, List.forall₂_map_right_iff]
    exact hCut.flip.imp fun _ _ hGroup => groupParts_congr hGroup
  have hGroups : ∀ s : List Char,
      textGroups s = ((s.splitOn ',').map groupParts).filterMap NonEmpty.ofList? := by
    intro s
    rw [List.filterMap_map]
    rfl
  rw [hGroups, hGroups, hParts]

/-- A text is cut as its trimming is. -/
theorem splitGroups_trim (axis : Axis) (text : String) :
    splitGroups axis (Text.trim text) = splitGroups axis text := by
  have hTrim : (Text.trim text).toList = Text.trimChars text.toList := String.toList_ofList
  have hGroups : textGroups (Text.trim text).toList = textGroups text.toList := by
    rw [hTrim]
    exact (textGroups_congr (Text.trimChars_surrounded text.toList)).symm
  have hBlank : Text.allBlank (Text.trim text) = Text.allBlank text := by
    rw [Bool.eq_iff_iff, Text.allBlank, Text.allBlank, List.all_eq_true, List.all_eq_true, hTrim,
      ← Text.trimChars_eq_nil_iff, ← Text.trimChars_eq_nil_iff, Text.trimChars_trimChars]
  rw [splitGroups, splitGroups, hBlank, hGroups]

/-! ## Pointwise reading -/

namespace Condition

/-- A text with a colon is no keyword. -/
theorem keyword?_eq_none_of_colon {axis : OrderedAxis} {body : List Char} (h : ':' ∈ body) :
    axis.keyword? (String.ofList body) = none := by
  cases hKeyword : axis.keyword? (String.ofList body) with
  | none => rfl
  | some d =>
    have hBody : d.keyword.toList = body := by
      rw [(OrderedAxis.keyword?_eq_some_iff.mp hKeyword).2, String.toList_ofList]
    rw [← hBody] at h
    cases d <;> revert h <;> decide

/-- A body is read as a bare direction, or else it is cut at its first colon into
a type and the rest, and the rest into a target and perhaps a direction. -/
theorem Kind.parse_eq_ok_iff {axis : OrderedAxis} {body : List Char} {kind : Kind} :
    Kind.parse axis body = .ok kind ↔
      (∃ d, axis.keyword? (String.ofList body) = some d ∧ kind = .moved d) ∨
      ∃ type rest word, Text.cutAt? ':' body = some (type, rest) ∧
        Word.ofText? (String.ofList (Text.trimChars type)) = some word ∧
        (splitTarget rest).1 ≠ [] ∧
        Kind.ofParts axis body word (String.ofList (splitTarget rest).1) (splitTarget rest).2 =
          .ok kind := by
  cases hKeyword : axis.keyword? (String.ofList body) with
  | some d =>
    -- a keyword has no colon to cut it at, so the second way of reading is out
    have hColon : ':' ∉ body := fun h => by
      rw [keyword?_eq_none_of_colon h] at hKeyword
      cases hKeyword
    rw [Kind.parse, hKeyword, Text.cutAt?_eq_none_iff.mpr hColon]
    constructor
    · intro h
      cases h
      exact Or.inl ⟨d, rfl, rfl⟩
    · rintro (⟨_, hEq, rfl⟩ | ⟨_, _, _, hNone, _⟩)
      · cases hEq
        rfl
      · cases hNone
  | none =>
    -- from here on the two sides make the same choices
    cases hCut : Text.cutAt? ':' body with
    | none =>
      rw [Kind.parse, hKeyword, hCut]
      simp
    | some cut =>
      obtain ⟨type, rest⟩ := cut
      cases hWord : Word.ofText? (String.ofList (Text.trimChars type)) with
      | none =>
        simp [Kind.parse, hKeyword, hCut, hWord]
      | some word =>
        by_cases hEmpty : (splitTarget rest).1 = []
        · simp [Kind.parse, hKeyword, hCut, hWord, hEmpty]
        · simp [Kind.parse, hKeyword, hCut, hWord, hEmpty]

/-- What begins with the negation is read without it, trimmed. -/
theorem splitNegation_append (rest : List Char) :
    splitNegation (negation.toList ++ rest) = (true, Text.trimChars rest) := by
  rw [splitNegation, Text.dropStart?_eq_some_iff.mpr rfl]

/-- Any other text is read as it stands. -/
theorem splitNegation_of_plain {part : List Char} (h : ¬ negation.toList <+: part) :
    splitNegation part = (false, part) := by
  have hDrop : Text.dropStart? negation.toList part = none := by
    rw [Text.dropStart?, if_neg]
    rwa [List.isPrefixOf_iff_prefix]
  rw [splitNegation, hDrop]

/-- A part is read as a condition when the body behind its negation is read as the kind. -/
theorem parse_eq_ok_iff {axis : OrderedAxis} {part : List Char} {c : Condition} :
    Condition.parse axis part = .ok c ↔
      (splitNegation part).1 = c.negated ∧ Kind.parse axis (splitNegation part).2 = .ok c.kind := by
  rw [Condition.parse, bind_eq_ok_iff]
  constructor
  · rintro ⟨kind, hKind, hEq⟩
    cases hEq
    exact ⟨rfl, hKind⟩
  · rintro ⟨hNegated, hKind⟩
    refine ⟨c.kind, hKind, ?_⟩
    rw [hNegated]
    rfl

theorem parse_eq_error_iff {axis : OrderedAxis} {part : List Char} {e : PatternError} :
    Condition.parse axis part = .error e ↔ Kind.parse axis (splitNegation part).2 = .error e := by
  rw [Condition.parse, bind_eq_error_iff]
  simp [pure, Except.pure]

end Condition

/-- The parts of a group are read, one by one, as the conditions of the pattern. -/
def Pattern.ReadFrom (axis : OrderedAxis) (parts : NonEmpty (List Char)) (p : Pattern) : Prop :=
  List.Forall₂ (fun part c => Condition.parse axis part = .ok c) parts.toList p.conditions.toList

/-- **Reading is pointwise.** A text is read as a set exactly when its groups are
read, one by one, as the patterns of the set. -/
theorem PatternSet.parse_eq_ok_iff {axis : OrderedAxis} {text : String} {set : PatternSet} :
    PatternSet.parse axis text = .ok set ↔
      List.Forall₂ (Pattern.ReadFrom axis) (textGroups text.toList) set.patterns.toList := by
  have hGroup : ∀ (parts : NonEmpty (List Char)) (p : Pattern),
      (do let conditions ← parts.mapM (Condition.parse axis); return Pattern.mk conditions) =
        Except.ok p ↔ Pattern.ReadFrom axis parts p := by
    intro parts p
    rw [bind_eq_ok_iff, Pattern.ReadFrom, ← NonEmpty.mapM_eq_ok_iff]
    constructor
    · rintro ⟨conditions, hRead, hEq⟩
      cases hEq
      exact hRead
    · intro hRead
      exact ⟨p.conditions, hRead, rfl⟩
  rw [PatternSet.parse, bind_eq_ok_iff]
  constructor
  · rintro ⟨groups, hSplit, hRest⟩
    obtain ⟨patterns, hRead, hEq⟩ := bind_eq_ok_iff.mp hRest
    cases hEq
    -- what was cut are the groups, whatever the checks before
    rw [splitGroups_eq_ok_iff.mp hSplit]
    exact (NonEmpty.mapM_eq_ok_iff.mp hRead).imp fun parts p h => (hGroup parts p).mp h
  · intro hRead
    -- the set has a pattern, so the text has a group
    obtain ⟨parts, rest, -, -, hCons⟩ := List.forall₂_cons_right_iff.mp hRead
    refine ⟨⟨parts, rest⟩, splitGroups_eq_ok_iff.mpr hCons,
      bind_eq_ok_iff.mpr ⟨set.patterns, ?_, rfl⟩⟩
    rw [hCons] at hRead
    exact NonEmpty.mapM_eq_ok_iff.mpr (hRead.imp fun parts p h => (hGroup parts p).mpr h)

/-- Every condition of a set that was read comes from a part. -/
theorem PatternSet.exists_part_of_parse {axis : OrderedAxis} {text : String} {set : PatternSet}
    (h : PatternSet.parse axis text = .ok set) {c : Condition} (hc : c ∈ set.conditions) :
    ∃ part, IsPart part ∧ Condition.parse axis part = .ok c := by
  rw [PatternSet.parse_eq_ok_iff] at h
  obtain ⟨p, hp, hcp⟩ := List.mem_flatMap.mp hc
  obtain ⟨parts, hParts, hRead⟩ := exists_mem_left_of_forall₂ h hp
  obtain ⟨part, hPart, hParse⟩ := exists_mem_left_of_forall₂ hRead hcp
  exact ⟨part, isPart_of_mem_textGroups hParts hPart, hParse⟩

end TicketTrail
