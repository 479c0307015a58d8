import Mathlib.Data.List.Forall2
import TicketTrail.Pattern.Match
import TicketTrail.Proofs.Pattern.Matching

/-!
# What a match explains

A match names the first pattern that holds and, condition by condition, the move that
shows it. Two paths through the patterns have to agree for that: one asks whether
conditions hold, the other gathers witnesses and stops at the first condition that
fails. They agree because a condition that is shown by a move holds of a history
exactly when it holds of one of its moves alone (`Condition.Kind.holds_eq_any`), and
the witness is the first of these. So all parts of a condition are asked of one move:
a ticket that left a column the wrong way first, and the right way later, is shown by
the later move.

Main results:

* `Condition.firstShown_witness?` — a condition that holds is shown by the first move
  of which it holds alone, if it is shown by a move at all;
* `Pattern.witnesses?_eq` — the two paths agree on a pattern;
* `PatternSet.findMatch?_explains` — a match is found whenever there is one, and what
  it names is right.
-/

namespace TicketTrail

/-! ## Conditions that are shown by a move -/

namespace Condition

/-- Conditions of this kind hold by way of some move, which can be named. -/
def Kind.isShown : Kind → Bool
  | left _ _ | entered _ | been _ | moved _ => true
  | current _ | never _ => false

/-- A condition that is shown by a move holds of a history when it holds of one of its
moves alone, whatever the current state. -/
theorem Kind.holds_eq_any {kind : Kind} (hKind : kind.isShown = true) (scale : Scale)
    (moves : List Move) (now now' : Option String) :
    kind.holds scale moves now = moves.any fun m => kind.holds scale [m] now' := by
  cases kind with
  | left target direction | entered target | been target | moved direction => simp [holds]
  | current target | never target => cases hKind

/-- The witness of such a condition is the first of these moves. -/
theorem Kind.witness?_eq_findIdx? {kind : Kind} (hKind : kind.isShown = true) (scale : Scale)
    (moves : List Move) (now : Option String) :
    kind.witness? scale moves = moves.findIdx? fun m => kind.holds scale [m] now := by
  cases kind with
  | left target direction | entered target | been target | moved direction =>
    simp [holds, witness?]
  | current target | never target => cases hKind

/-- Other conditions have no witness: no single move could be named. -/
theorem Kind.witness?_of_not_isShown {kind : Kind} (hKind : kind.isShown = false) (scale : Scale)
    (moves : List Move) : kind.witness? scale moves = none := by
  cases kind with
  | left target direction | entered target | been target | moved direction => cases hKind
  | current target | never target => rfl

/-- The witness is there exactly for a condition that is shown by a move, and then it is
the first event of which alone the condition holds. -/
def FirstShown (scale : Scale) (events : List Event) (c : Condition) (witness : Option Nat) :
    Prop :=
  (witness.isSome = true ↔ c.negated = false ∧ c.kind.isShown = true) ∧
    ∀ i ∈ witness, ∃ e, events[i]? = some e ∧ ∀ now,
      c.holds scale [e.toMove] now = true ∧
        ∀ j < i, ∀ e', events[j]? = some e' → c.holds scale [e'.toMove] now = false

section Witness

variable {scale : Scale} {events : List Event} {now : Option String} {c : Condition}

theorem holds_of_not_negated (hNegated : c.negated = false) (moves : List Move) :
    c.holds scale moves now = c.kind.holds scale moves now := by
  rw [holds, hNegated, Bool.bne_false]

/-- What a witness is, told by events: the first one of which alone the condition holds. -/
theorem witness?_eq_some_iff (hNegated : c.negated = false) (hKind : c.kind.isShown = true)
    (now : Option String) {i : Nat} :
    c.witness? scale (events.map Event.toMove) = some i ↔
      ∃ e, events[i]? = some e ∧ c.holds scale [e.toMove] now = true ∧
        ∀ j < i, ∀ e', events[j]? = some e' → c.holds scale [e'.toMove] now = false := by
  simp only [holds_of_not_negated hNegated]
  rw [witness?, hNegated, if_neg Bool.false_ne_true, Kind.witness?_eq_findIdx? hKind scale _ now,
    List.findIdx?_map, List.findIdx?_eq_some_iff_getElem]
  constructor
  · rintro ⟨hi, hHolds, hEarlier⟩
    refine ⟨events[i], List.getElem?_eq_getElem hi, hHolds, fun j hj e' he' => ?_⟩
    -- an event before the witness is one of the events that were passed over
    obtain ⟨-, rfl⟩ := List.getElem?_eq_some_iff.mp he'
    exact Bool.eq_false_iff.mpr (hEarlier j hj)
  · rintro ⟨e, he, hHolds, hEarlier⟩
    obtain ⟨hi, rfl⟩ := List.getElem?_eq_some_iff.mp he
    refine ⟨hi, hHolds, fun j hj => ?_⟩
    have hj' : events[j]? = some events[j] := List.getElem?_eq_getElem (Nat.lt_trans hj hi)
    exact Bool.eq_false_iff.mp (hEarlier j hj _ hj')

/-- **A condition that holds is shown by the first move of which it holds alone**, and by
none when it is negated or not about a move. -/
theorem firstShown_witness? (h : c.holds scale (events.map Event.toMove) now = true) :
    c.FirstShown scale events (c.witness? scale (events.map Event.toMove)) := by
  by_cases hShown : c.negated = false ∧ c.kind.isShown = true
  · obtain ⟨hNegated, hKind⟩ := hShown
    -- the condition holds, so some move shows it
    have hSome : (c.witness? scale (events.map Event.toMove)).isSome = true := by
      rw [holds_of_not_negated hNegated, Kind.holds_eq_any hKind scale _ now now] at h
      rw [witness?, hNegated, if_neg Bool.false_ne_true,
        Kind.witness?_eq_findIdx? hKind scale _ now, List.findIdx?_isSome, h]
    refine ⟨iff_of_true hSome ⟨hNegated, hKind⟩, fun i hi => ?_⟩
    have hFirst := fun now => (witness?_eq_some_iff hNegated hKind now).mp hi
    -- the event is the same for every current state
    obtain ⟨e, he, -⟩ := hFirst none
    refine ⟨e, he, fun now => ?_⟩
    obtain ⟨e', he', hHolds⟩ := hFirst now
    cases he.symm.trans he'
    exact hHolds
  · -- negated or not about a move, and there is no witness either way
    have hNone : c.witness? scale (events.map Event.toMove) = none := by
      rw [witness?]
      split
      · rfl
      · next hNegated =>
        have hKind : ¬ c.kind.isShown = true :=
          fun hKind => hShown ⟨Bool.eq_false_iff.mpr hNegated, hKind⟩
        exact Kind.witness?_of_not_isShown (Bool.eq_false_iff.mpr hKind) scale _
    rw [hNone]
    exact ⟨iff_of_false Bool.false_ne_true hShown, fun i hi => by cases hi⟩

end Witness

end Condition

/-! ## Patterns -/

section Patterns

variable (scale : Scale) (moves : List Move) (now : Option String)

theorem Pattern.holds_iff {p : Pattern} :
    p.holds scale moves now = true ↔
      ∀ c ∈ p.conditions.toList, c.holds scale moves now = true := by
  rw [holds, List.all_eq_true]

/-- The path that stops at the first condition that fails gathers the witnesses of all
conditions when none fails. -/
theorem Pattern.witnesses?_eq (p : Pattern) :
    p.witnesses? scale moves now =
      if p.holds scale moves now then
        some (p.conditions.toList.map (Condition.witness? scale moves))
      else none := by
  unfold witnesses? holds
  -- condition by condition: the first that fails ends both paths
  induction p.conditions.toList with
  | nil => rfl
  | cons c rest ih =>
    rw [List.mapM_cons, List.all_cons, ih]
    cases c.holds scale moves now with
    | false => rfl
    | true => cases rest.all (Condition.holds scale moves now) <;> rfl

namespace PatternSet

variable (set : PatternSet)

/-- There is a match exactly when some pattern has all its conditions fulfilled. -/
theorem findMatch?_isSome_iff :
    (set.findMatch? scale moves now).isSome = true ↔
      ∃ p ∈ set.patterns.toList, ∀ c ∈ p.conditions.toList, c.holds scale moves now = true := by
  rw [findMatch?_isSome, List.any_eq_true]
  simp only [Pattern.holds_iff]

/-- The first pattern that holds is found with what stands before it and the witnesses of
its conditions. -/
theorem findFrom?_eq_some_iff {index : Nat} {patterns : List Pattern} {found : PatternMatch} :
    findFrom? scale moves now index patterns = some found ↔
      ∃ before after, patterns = before ++ found.pattern :: after ∧
        found.index = index + before.length ∧
        (∀ p ∈ before, p.holds scale moves now = false) ∧
        found.pattern.holds scale moves now = true ∧
        found.witnesses = found.pattern.conditions.toList.map (Condition.witness? scale moves) := by
  -- the patterns are tried in order, each at its own place
  induction patterns generalizing index with
  | nil => simp [findFrom?]
  | cons p rest ih =>
    rw [findFrom?, Pattern.witnesses?_eq]
    by_cases hHolds : p.holds scale moves now = true
    · rw [if_pos hHolds]
      constructor
      · intro h
        cases h
        exact ⟨[], rest, rfl, rfl, by simp, hHolds, rfl⟩
      · rintro ⟨before, after, hEq, hIndex, hBefore, -, hWitnesses⟩
        -- nothing stands before a pattern that holds
        cases before with
        | nil =>
          cases hEq
          obtain ⟨place, pattern, witnesses⟩ := found
          dsimp only at hIndex hWitnesses
          rw [hIndex, hWitnesses]
          rfl
        | cons q before =>
          cases hEq
          rw [hBefore p List.mem_cons_self] at hHolds
          cases hHolds
    · rw [if_neg hHolds]
      -- the pattern fails, so the match is in the rest, one place further on
      refine ih.trans ⟨?_, ?_⟩
      · rintro ⟨before, after, rfl, hIndex, hBefore, hFound⟩
        refine ⟨p :: before, after, rfl, ?_, ?_, hFound⟩
        · rw [hIndex, List.length_cons]
          omega
        · exact List.forall_mem_cons.mpr ⟨Bool.eq_false_iff.mpr hHolds, hBefore⟩
      · rintro ⟨before, after, hEq, hIndex, hBefore, hFound⟩
        cases before with
        | nil =>
          cases hEq
          exact absurd hFound.1 hHolds
        | cons q before =>
          cases hEq
          refine ⟨before, after, rfl, ?_, (List.forall_mem_cons.mp hBefore).2, hFound⟩
          rw [hIndex, List.length_cons]
          omega

end PatternSet

end Patterns

/-! ## Matches -/

namespace PatternMatch

/-- What a match names of a set of patterns and a history is right. -/
structure Explains (scale : Scale) (events : List Event) (now : Option String)
    (set : PatternSet) (found : PatternMatch) : Prop where
  /-- It names a pattern of the set and its place, and no pattern before it holds. -/
  first : ∃ before after, set.patterns.toList = before ++ found.pattern :: after ∧
    before.length = found.index ∧
    ∀ p ∈ before, ∃ c ∈ p.conditions.toList,
      c.holds scale (events.map Event.toMove) now = false
  /-- Every condition of the pattern holds. -/
  holds : ∀ c ∈ found.pattern.conditions.toList,
    c.holds scale (events.map Event.toMove) now = true
  /-- The witnesses are those of the conditions, one for each. -/
  witnesses : List.Forall₂ (Condition.FirstShown scale events) found.pattern.conditions.toList
    found.witnesses
  /-- The evidence is, one by one, the conditions that have a witness, with their events. -/
  evidence : List.Forall₂
    (fun (pair : Condition × Option Nat) (shown : Condition × Event) =>
      shown.1 = pair.1 ∧ ∃ i ∈ pair.2, events[i]? = some shown.2)
    ((found.pattern.conditions.toList.zip found.witnesses).filter (·.2.isSome))
    (found.evidence events)

variable {scale : Scale} {events : List Event} {found : PatternMatch}

/-- The evidence leaves out nothing: a witness is the place of an event. -/
theorem evidence_of_witnesses
    (h : List.Forall₂ (Condition.FirstShown scale events) found.pattern.conditions.toList
      found.witnesses) :
    List.Forall₂
      (fun (pair : Condition × Option Nat) (shown : Condition × Event) =>
        shown.1 = pair.1 ∧ ∃ i ∈ pair.2, events[i]? = some shown.2)
      ((found.pattern.conditions.toList.zip found.witnesses).filter (·.2.isSome))
      (found.evidence events) := by
  unfold evidence
  generalize found.pattern.conditions.toList = conditions at h ⊢
  generalize found.witnesses = witnesses at h ⊢
  -- each condition is taken along with its witness; one without a witness is left out on
  -- both sides
  induction h with
  | nil => exact List.Forall₂.nil
  | @cons c witness _ _ hHead _ ih =>
    rw [List.zip_cons_cons]
    cases witness with
    | none => simpa using ih
    | some i =>
      obtain ⟨e, he, -⟩ := hHead.2 i rfl
      rw [List.filter_cons_of_pos rfl, List.filterMap_cons]
      simp only [Option.bind_some, he, Option.map_some]
      exact List.Forall₂.cons ⟨rfl, i, rfl, he⟩ ih

end PatternMatch

/-- **A match explains itself.** There is a match exactly when all conditions of some
pattern hold, as asking for the truth of the patterns has it too; it is at the first such
pattern; and it has one witness for each condition, the first event that shows it by
itself, if the condition is one that an event can show. The evidence is these witnesses
as events. -/
theorem PatternSet.findMatch?_explains (scale : Scale) (events : List Event)
    (now : Option String) (set : PatternSet) :
    let moves := events.map Event.toMove
    (∀ p : Pattern, p.holds scale moves now = true ↔
      ∀ c ∈ p.conditions.toList, c.holds scale moves now = true) ∧
    (set.holds scale moves now = true ↔
      ∃ p ∈ set.patterns.toList, p.holds scale moves now = true) ∧
    ((∃ found, set.findMatch? scale moves now = some found) ↔
      ∃ p ∈ set.patterns.toList, ∀ c ∈ p.conditions.toList,
        c.holds scale moves now = true) ∧
    ∀ found, set.findMatch? scale moves now = some found →
      found.Explains scale events now set := by
  intro moves
  refine ⟨fun p => p.holds_iff scale moves now, ?_, ?_, fun found hFound => ?_⟩
  · rw [PatternSet.holds, findMatch?_isSome, List.any_eq_true]
  · rw [← findMatch?_isSome_iff, Option.isSome_iff_exists]
  · obtain ⟨before, after, hSet, hIndex, hBefore, hHolds, hWitnesses⟩ :=
      (findFrom?_eq_some_iff scale moves now).mp hFound
    have hConditions := (found.pattern.holds_iff scale moves now).mp hHolds
    -- each condition of the pattern holds, so each witness is right
    have hShown : List.Forall₂ (Condition.FirstShown scale events)
        found.pattern.conditions.toList found.witnesses := by
      rw [hWitnesses, List.forall₂_map_right_iff, List.forall₂_same]
      exact fun c hc => Condition.firstShown_witness? (hConditions c hc)
    refine ⟨⟨before, after, hSet, by omega, fun p hp => ?_⟩, hConditions, hShown,
      PatternMatch.evidence_of_witnesses hShown⟩
    -- a pattern that does not hold has a condition that does not
    have hNot : ¬ ∀ c ∈ p.conditions.toList, c.holds scale moves now = true := by
      rw [← Pattern.holds_iff, hBefore p hp]
      exact Bool.false_ne_true
    push Not at hNot
    exact hNot.imp fun c hc => ⟨hc.1, Bool.eq_false_iff.mpr hc.2⟩

/-- A board with three columns. -/
def threeColumns : Scale :=
  ⟨.column, .ofPairs .exact [("Backlog", 0), ("Doing", 1), ("Done", 2)]⟩

/-- Into review, or out of `Doing` onwards without a review. -/
def reviewedOrLeft : PatternSet :=
  ⟨⟨⟨⟨⟨.entered "Review", false⟩, []⟩⟩,
    [⟨⟨⟨.left "Doing" (some .forward), false⟩,
      [⟨.never "Review", false⟩, ⟨.entered "Review", true⟩]⟩⟩]⟩⟩

/-- Out of `Doing` the wrong way, and later the right way. -/
def leftTwice : List Event :=
  [{ prior := some "Doing", next := "Backlog", time := .earliest },
    { prior := some "Doing", next := "Done", time := .earliest }]

/-- The second pattern, shown by the second event. -/
def leftLater : PatternMatch where
  index := 1
  pattern := ⟨⟨⟨.left "Doing" (some .forward), false⟩,
    [⟨.never "Review", false⟩, ⟨.entered "Review", true⟩]⟩⟩
  witnesses := [some 1, none, none]

/-- The column was left the wrong way first, and the move that is named is the later one. -/
theorem PatternSet.findMatch?_explains_later :
    reviewedOrLeft.findMatch? threeColumns (leftTwice.map Event.toMove) none = some leftLater ∧
      leftLater.Explains threeColumns leftTwice none reviewedOrLeft ∧
      leftLater.evidence leftTwice =
        [(⟨.left "Doing" (some .forward), false⟩,
          { prior := some "Doing", next := "Done", time := .earliest })] := by
  have hFound : reviewedOrLeft.findMatch? threeColumns (leftTwice.map Event.toMove) none =
    some leftLater := by decide
  obtain ⟨-, -, -, hExplains⟩ := findMatch?_explains threeColumns leftTwice none reviewedOrLeft
  exact ⟨hFound, hExplains leftLater hFound, rfl⟩

end TicketTrail
