import TicketTrail.Proofs.Pattern.Operators
import TicketTrail.Project.Pattern

/-!
# Reading project patterns

A project pattern is cut like any other pattern, and its parts are taken as they are:
there is nothing in a part to be read. So a text is read as a set exactly when its
groups are the names of the set, and a set comes back from its text when no name would
be cut or trimmed.

Main results:

* `ProjectPatternSet.parse_eq_ok_iff` — what a text is read as;
* `ProjectPatternSet.parse_text` — what was read is read again from its text;
* `ProjectPatternSet.parse_trim`, `ProjectPatternSet.parse_comma` — blanks around a
  text, and two texts joined.
-/

namespace TicketTrail

namespace ProjectPatternSet

/-- The names of the patterns, as the parts of a text. -/
def parts (set : ProjectPatternSet) : NonEmpty (NonEmpty (List Char)) :=
  set.patterns.map fun p => p.names.map fun name => name.raw.toList

/-- The set with the given parts as its names. -/
def ofParts (groups : NonEmpty (NonEmpty (List Char))) : ProjectPatternSet :=
  ⟨groups.map fun parts => ⟨parts.map fun part => ⟨String.ofList part⟩⟩⟩

theorem parts_ofParts (groups : NonEmpty (NonEmpty (List Char))) :
    (ofParts groups).parts = groups := by
  simp [parts, ofParts, NonEmpty.map, Function.comp_def]

theorem ofParts_parts (set : ProjectPatternSet) : ofParts set.parts = set := by
  simp [parts, ofParts, NonEmpty.map, Function.comp_def]

/-- Reading cuts the text, and takes the parts as they are. -/
theorem parse_eq_map (text : String) :
    parse text = (splitGroups .project text).map ofParts := by
  rw [parse]
  cases splitGroups .project text <;> rfl

/-- A text is read as a set exactly when its groups are the names of the set. -/
theorem parse_eq_ok_iff {text : String} {set : ProjectPatternSet} :
    parse text = .ok set ↔ textGroups text.toList = set.parts.toList := by
  have hGroups : splitGroups .project text = .ok set.parts ↔
      textGroups text.toList = set.parts.toList := splitGroups_eq_ok_iff
  rw [← hGroups, parse_eq_map]
  -- a set and its parts say the same
  cases splitGroups .project text with
  | error e => simp [Except.map]
  | ok groups =>
    simp only [Except.map, Except.ok.injEq]
    constructor
    · rintro rfl
      exact (parts_ofParts groups).symm
    · rintro rfl
      exact ofParts_parts set

/-! ## What is printed is read back -/

/-- The text of a set joins its parts. -/
theorem text_toList (set : ProjectPatternSet) :
    set.text.toList =
      [','].intercalate (set.parts.toList.map fun parts => ['+'].intercalate parts.toList) := by
  rw [text, String.toList_intercalate, parts, NonEmpty.toList_map, List.map_map, List.map_map]
  congr 2
  funext p
  simp only [Function.comp_apply, NonEmpty.toList_map]
  rw [ProjectPattern.text, String.toList_intercalate, List.map_map]
  rfl

/-- Every name of a set that was read is a part of a text. -/
theorem isPart_of_parse {text : String} {set : ProjectPatternSet} (h : parse text = .ok set) :
    ∀ parts ∈ set.parts.toList, ∀ part ∈ parts.toList, IsPart part := by
  rw [parse_eq_ok_iff] at h
  intro parts hParts part hPart
  rw [← h] at hParts
  exact isPart_of_mem_textGroups hParts hPart

/-- A set is read back from its text when all its names are parts of a text. -/
theorem parse_text {set : ProjectPatternSet}
    (h : ∀ parts ∈ set.parts.toList, ∀ part ∈ parts.toList, IsPart part) :
    parse set.text = .ok set := by
  rw [parse_eq_ok_iff, text_toList]
  exact textGroups_intercalate set.parts.toList_ne_nil h

/-- The set with one pattern. -/
def ofPattern (p : ProjectPattern) : ProjectPatternSet :=
  ⟨⟨p, []⟩⟩

/-- The names of one pattern are names of the set. -/
theorem isPart_ofPattern {set : ProjectPatternSet} {p : ProjectPattern}
    (h : ∀ parts ∈ set.parts.toList, ∀ part ∈ parts.toList, IsPart part)
    (hp : p ∈ set.patterns.toList) :
    ∀ parts ∈ (ofPattern p).parts.toList, ∀ part ∈ parts.toList, IsPart part := by
  intro parts hParts
  rw [ofPattern, ProjectPatternSet.parts, NonEmpty.toList_map, NonEmpty.toList_mk, List.map_cons,
    List.map_nil, List.mem_singleton] at hParts
  refine h parts ?_
  rw [ProjectPatternSet.parts, NonEmpty.toList_map]
  exact List.mem_map.mpr ⟨p, hp, hParts.symm⟩

/-! ## Blanks and commas -/

/-- Blanks around a text do not matter. -/
theorem parse_trim (text : String) : parse (Text.trim text) = parse text := by
  rw [parse_eq_map, parse_eq_map, splitGroups_trim]

/-- The set with the patterns of both. -/
def union (p q : ProjectPatternSet) : ProjectPatternSet :=
  ⟨p.patterns.append q.patterns⟩

/-- **A comma joins tags**: what is on either side is read as by itself. -/
theorem parse_comma {a b : String} {A B : ProjectPatternSet} (hA : parse a = .ok A)
    (hB : parse b = .ok B) : parse (a ++ "," ++ b) = .ok (A.union B) := by
  rw [parse_eq_ok_iff] at hA hB ⊢
  have hText : (a ++ "," ++ b).toList = a.toList ++ ',' :: b.toList := by simp
  -- no group lies across the comma
  rw [hText, textGroups_append_comma, hA, hB, parts, parts, parts, union, NonEmpty.toList_map,
    NonEmpty.toList_map, NonEmpty.toList_map, NonEmpty.toList_append, List.map_append]

end ProjectPatternSet

end TicketTrail
