import TicketTrail.Pattern.Match
import TicketTrail.Proofs.FirstFailure

/-!
# What a match depends on

A match names a pattern of the set, its place and the first moves that made its
conditions hold. The pattern and its place follow from the truth of the patterns
alone (`PatternSet.findMatch?_index`, `PatternSet.findMatch?_pattern`), and the
truth of a pattern follows from which moves there are, not from their order or
their number. Only the witnesses move when the history is rearranged.

The witnesses stay as well when moves and conditions are replaced one for one by
others that are judged alike, on another scale even.

Main results:

* `PatternSet.findMatch?_index`, `PatternSet.findMatch?_pattern` — the first
  pattern that holds is the one that is named;
* `Pattern.holds_eq_of_sameMoves` — histories with the same moves satisfy the
  same patterns;
* `PatternSet.trace_eq_of_forall₂` — conditions that are judged alike are matched
  at the same place and by the same moves.
-/

namespace TicketTrail

/-! ## The first pattern that holds -/

namespace PatternSet

/-- The place that is told is that of the first pattern that holds, counted from where the
search began. -/
theorem findFrom?_index (scale : Scale) (moves : List Move) (now : Option String) (index : Nat)
    (patterns : List Pattern) :
    (findFrom? scale moves now index patterns).map PatternMatch.index =
      (patterns.findIdx? (Pattern.holds scale moves now)).map (· + index) := by
  -- the patterns are tried in order; the one that holds has its witnesses
  induction patterns generalizing index with
  | nil => rfl
  | cons p rest ih =>
    rw [findFrom?, List.findIdx?_cons, ← Pattern.witnesses?_isSome]
    cases p.witnesses? scale moves now with
    | some witnesses => simp
    | none =>
      -- the places of the rest are counted from one further on
      rw [ih (index + 1)]
      simp [Function.comp_def, Nat.add_assoc, Nat.add_comm 1]

/-- The pattern that is told is the first that holds. -/
theorem findFrom?_pattern (scale : Scale) (moves : List Move) (now : Option String) (index : Nat)
    (patterns : List Pattern) :
    (findFrom? scale moves now index patterns).map PatternMatch.pattern =
      patterns.find? (Pattern.holds scale moves now) := by
  induction patterns generalizing index with
  | nil => rfl
  | cons p rest ih =>
    rw [findFrom?, List.find?_cons, ← Pattern.witnesses?_isSome]
    cases p.witnesses? scale moves now with
    | some witnesses => rfl
    | none => exact ih (index + 1)

/-- The place of a match is that of the first pattern that holds. -/
theorem findMatch?_index (scale : Scale) (moves : List Move) (now : Option String)
    (set : PatternSet) :
    (set.findMatch? scale moves now).map PatternMatch.index =
      set.patterns.toList.findIdx? (Pattern.holds scale moves now) := by
  rw [findMatch?, findFrom?_index]
  simp

theorem findMatch?_pattern (scale : Scale) (moves : List Move) (now : Option String)
    (set : PatternSet) :
    (set.findMatch? scale moves now).map PatternMatch.pattern =
      set.patterns.toList.find? (Pattern.holds scale moves now) :=
  findFrom?_pattern scale moves now 0 set.patterns.toList

end PatternSet

/-! ## Histories with the same moves -/

/-- The lists hold the same moves, in whatever order and however often. -/
def SameMoves (xs ys : List Move) : Prop :=
  ∀ m, m ∈ xs ↔ m ∈ ys

section SameMoves

variable {xs ys : List Move}

/-- A test that asks whether there is some move does not see their order. -/
theorem any_eq_of_sameMoves (h : SameMoves xs ys) (p : Move → Bool) : xs.any p = ys.any p := by
  rw [Bool.eq_iff_iff, List.any_eq_true, List.any_eq_true]
  constructor
  · rintro ⟨m, hm, hp⟩
    exact ⟨m, (h m).mp hm, hp⟩
  · rintro ⟨m, hm, hp⟩
    exact ⟨m, (h m).mpr hm, hp⟩

/-- Every kind of condition asks whether there is a move of some sort, except for
`in`, which does not look at the moves. -/
theorem Condition.Kind.holds_eq_of_sameMoves (h : SameMoves xs ys) (scale : Scale)
    (now : Option String) (kind : Condition.Kind) :
    kind.holds scale xs now = kind.holds scale ys now := by
  cases kind with
  | left target direction => exact any_eq_of_sameMoves h _
  | entered target => exact any_eq_of_sameMoves h _
  | current target => rfl
  | been target => exact any_eq_of_sameMoves h _
  | never target => exact congrArg Bool.not (any_eq_of_sameMoves h _)
  | moved direction => exact any_eq_of_sameMoves h _

/-- Histories with the same moves satisfy the same patterns. -/
theorem Pattern.holds_eq_of_sameMoves (h : SameMoves xs ys) (scale : Scale) (now : Option String) :
    Pattern.holds scale xs now = Pattern.holds scale ys now := by
  funext p
  -- negation and the conjunction over a pattern add nothing that looks at the moves
  have hCondition : Condition.holds scale xs now = Condition.holds scale ys now := by
    funext c
    rw [Condition.holds, Condition.holds, Condition.Kind.holds_eq_of_sameMoves h]
  rw [Pattern.holds, Pattern.holds, hCondition]

/-- Histories with the same moves are matched at the same place. -/
theorem PatternSet.index_eq_of_sameMoves (h : SameMoves xs ys) (scale : Scale)
    (now : Option String) (set : PatternSet) :
    (set.findMatch? scale xs now).map PatternMatch.index =
      (set.findMatch? scale ys now).map PatternMatch.index := by
  rw [findMatch?_index, findMatch?_index, Pattern.holds_eq_of_sameMoves h]

theorem PatternSet.pattern_eq_of_sameMoves (h : SameMoves xs ys) (scale : Scale)
    (now : Option String) (set : PatternSet) :
    (set.findMatch? scale xs now).map PatternMatch.pattern =
      (set.findMatch? scale ys now).map PatternMatch.pattern := by
  rw [findMatch?_pattern, findMatch?_pattern, Pattern.holds_eq_of_sameMoves h]

end SameMoves

/-! ## Conditions that are judged alike -/

/-- Where a set was matched: the place of the pattern and, for each of its conditions,
the first move that made it hold. -/
def PatternMatch.trace (found : PatternMatch) : Nat × List (Option Nat) :=
  (found.index, found.witnesses)

section Alike

variable {scale scale' : Scale} {xs ys : List Move} {now now' : Option String}
  {R : Condition → Condition → Prop}
  (hR : ∀ c d, R c d → c.holds scale xs now = d.holds scale' ys now' ∧
    c.witness? scale xs = d.witness? scale' ys)

include hR

/-- Patterns whose conditions are judged alike have the same witnesses. -/
theorem Pattern.witnesses?_eq_of_forall₂ {p q : Pattern}
    (h : List.Forall₂ R p.conditions.toList q.conditions.toList) :
    p.witnesses? scale xs now = q.witnesses? scale' ys now' := by
  unfold witnesses?
  generalize p.conditions.toList = cs at h
  generalize q.conditions.toList = ds at h
  -- condition by condition, since both stop at the first that fails
  induction h with
  | nil => rfl
  | cons hHead _ ih =>
    obtain ⟨hHolds, hWitness⟩ := hR _ _ hHead
    rw [List.mapM_cons, List.mapM_cons, ih, hHolds, hWitness]

namespace PatternSet

/-- Among patterns that are judged alike the first one that holds has the same place. -/
theorem findFrom?_trace_eq_of_forall₂ {ps qs : List Pattern}
    (h : List.Forall₂ (fun p q => List.Forall₂ R p.conditions.toList q.conditions.toList) ps qs)
    (index : Nat) :
    (findFrom? scale xs now index ps).map PatternMatch.trace =
      (findFrom? scale' ys now' index qs).map PatternMatch.trace := by
  induction h generalizing index with
  | nil => rfl
  | cons hHead _ ih =>
    rw [findFrom?, findFrom?, Pattern.witnesses?_eq_of_forall₂ hR hHead]
    split
    · rfl
    · exact ih (index + 1)

/-- **Sets whose conditions are judged alike** are matched alike: at the same place, and
with the same witnesses. -/
theorem trace_eq_of_forall₂ {set set' : PatternSet}
    (h : List.Forall₂ (fun p q => List.Forall₂ R p.conditions.toList q.conditions.toList)
      set.patterns.toList set'.patterns.toList) :
    (set.findMatch? scale xs now).map PatternMatch.trace =
      (set'.findMatch? scale' ys now').map PatternMatch.trace :=
  findFrom?_trace_eq_of_forall₂ hR h 0

end PatternSet

end Alike

end TicketTrail
