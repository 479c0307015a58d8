import TicketTrail.Proofs.Pattern.Explanation

/-!
# Presence and absence

A condition on a history asks that some move is there or that none is. `never` and the
negations of the other kinds ask for an absence, and so `not:never` asks for a presence;
`in`, negated or not, looks at the current state and asks the history nothing.

Where there are no moves, what holds is what asks for an absence. When a history grows,
what asked for a presence goes on holding, and what asks for an absence held before. The
second is the first with the condition negated. A set of patterns keeps what its
conditions keep: the pattern that matched goes on matching, and only one before it can
take its place.

Main results:

* `Condition.holds_of_no_moves` — what holds where there are no moves;
* `Condition.holds_of_isLasting`, `Condition.holds_of_isReceding` — what goes on holding,
  and what held before;
* `PatternSet.findMatch?_monotone` — how the match of a set moves as a history grows.
-/

namespace TicketTrail

namespace Condition

/-- The condition asks that something is absent. -/
def isAbsence (c : Condition) : Bool :=
  match c.kind with
  | .never _ => !c.negated
  | _ => c.negated

/-- The condition goes on holding when the history grows: it asks for a presence or looks
at the current state only. -/
def isLasting (c : Condition) : Bool :=
  c.kind.isCurrentOnly || !c.isAbsence

/-- The condition held before when the history has grown: it asks for an absence or looks
at the current state only. -/
def isReceding (c : Condition) : Bool :=
  c.kind.isCurrentOnly || c.isAbsence

/-- Negation turns what lasts into what recedes. -/
theorem isLasting_negate (c : Condition) : c.negate.isLasting = c.isReceding := by
  obtain ⟨kind, negated⟩ := c
  cases kind <;> cases negated <;> rfl

/-! ## Histories without moves -/

/-- Without a move what holds is what asks for an absence, unless it looks at a current
state. -/
theorem holds_of_no_moves {c : Condition} {now : Option String}
    (h : c.kind.isCurrentOnly = true → now = none) (scale : Scale) :
    c.holds scale [] now = c.isAbsence := by
  obtain ⟨kind, negated⟩ := c
  cases kind with
  | current target =>
    rw [h rfl]
    cases negated <;> rfl
  | left target direction | entered target | been target | never target | moved direction =>
    cases negated <;> rfl

/-! ## Histories that grow -/

section Growth

variable {scale : Scale} {moves moves' : List Move} {now : Option String} (h : moves ⊆ moves')

include h

/-- A move that shows a condition shows it in every longer history. -/
theorem Kind.holds_of_subset {kind : Kind} (hKind : kind.isShown = true)
    (hHolds : kind.holds scale moves now = true) : kind.holds scale moves' now = true := by
  rw [Kind.holds_eq_any hKind scale _ now now, List.any_eq_true] at hHolds ⊢
  obtain ⟨m, hm, hShown⟩ := hHolds
  exact ⟨m, h hm, hShown⟩

/-- **What asks for a presence goes on holding** as a history grows. -/
theorem holds_of_isLasting {c : Condition} (hLasting : c.isLasting = true)
    (hHolds : c.holds scale moves now = true) : c.holds scale moves' now = true := by
  obtain ⟨kind, negated⟩ := c
  -- only a move can show these kinds, and every move is still there
  cases kind with
  | current target => exact hHolds
  | never target =>
    -- `not:never` asks what `been` asks
    cases negated with
    | false => cases hLasting
    | true =>
      have hBeen : (Kind.been target).holds scale moves now = true := by
        simpa [holds, Kind.holds] using hHolds
      simpa [holds, Kind.holds] using Kind.holds_of_subset h rfl hBeen
  | left target direction | entered target | been target | moved direction =>
    cases negated with
    | true => cases hLasting
    | false =>
      rw [holds_of_not_negated rfl] at hHolds ⊢
      exact Kind.holds_of_subset h rfl hHolds

/-- **What asks for an absence held before.** Were it not so, the negation would hold
before and not now. -/
theorem holds_of_isReceding {c : Condition} (hReceding : c.isReceding = true)
    (hHolds : c.holds scale moves' now = true) : c.holds scale moves now = true := by
  by_contra hNot
  have hBefore : c.negate.holds scale moves now = true := by
    rw [holds_negate, Bool.not_eq_true', ← Bool.not_eq_true]
    exact hNot
  have hAfter := holds_of_isLasting h ((isLasting_negate c).trans hReceding) hBefore
  rw [holds_negate, hHolds] at hAfter
  cases hAfter

end Growth

end Condition

/-! ## Sets of patterns -/

namespace PatternSet

variable {scale : Scale} {moves moves' : List Move} {now : Option String} {set : PatternSet}

/-- When the patterns of a set that hold of one history hold of another, the match on the
other is no later. -/
theorem exists_findMatch?_le (h : ∀ p ∈ set.patterns.toList,
      p.holds scale moves now = true → p.holds scale moves' now = true)
    {found : PatternMatch} (hFound : set.findMatch? scale moves now = some found) :
    ∃ found', set.findMatch? scale moves' now = some found' ∧ found'.index ≤ found.index := by
  -- the pattern that matched holds of the other history too
  have hIndex := findMatch?_index scale moves now set
  rw [hFound] at hIndex
  obtain ⟨hBound, hHolds, -⟩ := List.findIdx?_eq_some_iff_getElem.mp hIndex.symm
  have hHolds' := h _ (List.getElem_mem hBound) hHolds
  obtain ⟨found', hFound'⟩ : ∃ found', set.findMatch? scale moves' now = some found' := by
    rw [← Option.isSome_iff_exists, findMatch?_isSome, List.any_eq_true]
    exact ⟨_, List.getElem_mem hBound, hHolds'⟩
  refine ⟨found', hFound', Nat.le_of_not_lt fun hLater => ?_⟩
  -- what stands before a match does not hold
  have hIndex' := findMatch?_index scale moves' now set
  rw [hFound'] at hIndex'
  obtain ⟨_, -, hEarlier⟩ := List.findIdx?_eq_some_iff_getElem.mp hIndex'.symm
  exact hEarlier _ hLater hHolds'

theorem mem_conditions {p : Pattern} {c : Condition} (hp : p ∈ set.patterns.toList)
    (hc : c ∈ p.conditions.toList) : c ∈ set.conditions :=
  List.mem_flatMap.mpr ⟨p, hp, hc⟩

/-- **Matching is monotone as a history grows.** When every condition asks for a presence
or looks at the current state only, a set that matches goes on matching, at the same
pattern or at one before it. When every condition asks for an absence or looks at the
current state only, a set that matches in the end matched before, and no later in the
set. -/
theorem findMatch?_monotone (scale : Scale) {moves moves' : List Move} (h : moves ⊆ moves')
    (now : Option String) (set : PatternSet) :
    ((∀ c ∈ set.conditions, c.isLasting = true) →
      ∀ found, set.findMatch? scale moves now = some found →
        ∃ found', set.findMatch? scale moves' now = some found' ∧ found'.index ≤ found.index) ∧
    ((∀ c ∈ set.conditions, c.isReceding = true) →
      ∀ found', set.findMatch? scale moves' now = some found' →
        ∃ found, set.findMatch? scale moves now = some found ∧ found.index ≤ found'.index) := by
  -- a pattern keeps what all its conditions keep
  refine ⟨fun hLasting found => exists_findMatch?_le fun p hp hHolds => ?_,
    fun hReceding found' => exists_findMatch?_le fun p hp hHolds => ?_⟩
  · rw [Pattern.holds_iff] at hHolds ⊢
    exact fun c hc => Condition.holds_of_isLasting h (hLasting c (mem_conditions hp hc))
      (hHolds c hc)
  · rw [Pattern.holds_iff] at hHolds ⊢
    exact fun c hc => Condition.holds_of_isReceding h (hReceding c (mem_conditions hp hc))
      (hHolds c hc)

/-- Done, or out of the backlog and not done now. -/
def doneOrStarted : PatternSet :=
  ⟨⟨⟨⟨⟨.been "Done", false⟩, []⟩⟩,
    [⟨⟨⟨.never "Backlog", true⟩, [⟨.current "Done", true⟩]⟩⟩]⟩⟩

/-- Never done, or never reviewed and never put into progress. -/
def neverDoneOrReviewed : PatternSet :=
  ⟨⟨⟨⟨⟨.never "Done", false⟩, []⟩⟩,
    [⟨⟨⟨.never "Review", false⟩, [⟨.entered "Doing", true⟩]⟩⟩]⟩⟩

/-- With a history of which only the first change is known at first. -/
theorem findMatch?_monotone_leftTwice :
    let early := (leftTwice.take 1).map Event.toMove
    let late := leftTwice.map Event.toMove
    early ⊆ late ∧
      (doneOrStarted.findMatch? threeColumns early none).map PatternMatch.index = some 1 ∧
      (∃ found, doneOrStarted.findMatch? threeColumns late none = some found ∧
        found.index ≤ 1) ∧
      (neverDoneOrReviewed.findMatch? threeColumns late none).map PatternMatch.index = some 1 ∧
      ∃ found, neverDoneOrReviewed.findMatch? threeColumns early none = some found ∧
        found.index ≤ 1 := by
  intro early late
  have hGrows : early ⊆ late := by decide
  exact ⟨hGrows, rfl,
    (findMatch?_monotone threeColumns hGrows none doneOrStarted).1 (by decide) _ rfl, rfl,
    (findMatch?_monotone threeColumns hGrows none neverDoneOrReviewed).2 (by decide) _ rfl⟩

end PatternSet

end TicketTrail
