import TicketTrail.Proofs.Pattern.Operators
import TicketTrail.Proofs.Pattern.RankOrder
import TicketTrail.Proofs.Pattern.RoundTrip

/-!
# The two halves of the rank order

Which keywords a pattern may use on an axis is written in one place, and what a keyword asks of the
ranks in another. On two axes the first keyword is the way up, on priorities it is the way down,
because the most urgent priority has rank 0. This module says that the two places fit: what can be
read is what the ranks decide, and the two keywords of an axis divide between them the moves whose
ends are ranked apart, whatever the table.

So a keyword is a strict order on the names of states, the other keyword of its axis is the reverse
of that order, and a move that neither takes is one between states of equal rank or with an end
that has no rank.

Main results:

* `Scale.moved_opposite` — a move one way is a move back the other way;
* `Scale.moved_self`, `Scale.moved_trans` — each direction is a strict order;
* `Scale.existsUnique_moved_iff` — a move goes one of the two ways exactly between states that are
  ranked apart;
* `Scale.keywords_halve_ranks` — all of it, with what can be read.
-/

namespace TicketTrail

namespace OrderedAxis

variable {axis : OrderedAxis} {d : Direction}

theorem opposite_mem_directions (h : d ∈ axis.directions) : axis.opposite d ∈ axis.directions := by
  rw [mem_directions_iff] at h ⊢
  rw [opposite_eq_upward_iff, opposite_eq_downward_iff]
  exact h.symm

theorem opposite_ne (h : d ∈ axis.directions) : axis.opposite d ≠ d := by
  have hTurn := axis.upward_ne_downward
  rcases mem_directions_iff.mp h with rfl | rfl
  · rw [opposite_eq_downward_iff.mpr rfl]
    exact hTurn.symm
  · rw [opposite_eq_upward_iff.mpr rfl]
    exact hTurn

end OrderedAxis

namespace Scale

/-- The direction is that of the moves between ranked states whose ranks are so related. -/
def Decides (scale : Scale) (R : Int → Int → Prop) (d : Direction) : Prop :=
  ∀ prior next, scale.moved d prior next = true ↔
    ∃ a b, scale.rank? prior = some a ∧ scale.rank? next = some b ∧ R a b

/-- Both states have a rank, and not the same one. -/
def Apart (scale : Scale) (prior next : String) : Prop :=
  ∃ a b, scale.rank? prior = some a ∧ scale.rank? next = some b ∧ a ≠ b

variable {scale : Scale} {d : Direction} {x y z : String}

/-! ## Strict orders -/

/-- A move in a direction is a move back in the other direction. -/
theorem moved_opposite (scale : Scale) (d : Direction) (x y : String) :
    scale.moved (scale.axis.opposite d) y x = scale.moved d x y := by
  rw [Bool.eq_iff_iff, moved_iff, moved_iff, OrderedAxis.opposite_eq_upward_iff,
    OrderedAxis.opposite_eq_downward_iff]
  -- turning the move and turning the direction undo each other
  constructor
  · rintro ⟨b, a, hb, ha, hWay⟩
    exact ⟨a, b, ha, hb, hWay.symm⟩
  · rintro ⟨a, b, ha, hb, hWay⟩
    exact ⟨b, a, hb, ha, hWay.symm⟩

/-- No state is reached from itself by a move in a direction. -/
theorem moved_self (scale : Scale) (d : Direction) (x : String) : scale.moved d x x = false := by
  rw [Bool.eq_false_iff, Ne, moved_iff]
  rintro ⟨a, b, ha, hb, hWay⟩
  have hSame : a = b := Option.some.inj (ha.symm.trans hb)
  -- no rank is less than itself
  omega

/-- Two moves in a direction are together one in that direction. -/
theorem moved_trans (hxy : scale.moved d x y = true) (hyz : scale.moved d y z = true) :
    scale.moved d x z = true := by
  obtain ⟨a, b, ha, hb, hFirst⟩ := moved_iff.mp hxy
  obtain ⟨b', c, hb', hc, hSecond⟩ := moved_iff.mp hyz
  have hSame : b = b' := Option.some.inj (hb.symm.trans hb')
  subst hSame
  have hTurn := scale.axis.upward_ne_downward
  refine moved_iff.mpr ⟨a, c, ha, hc, ?_⟩
  -- a direction is one way only, so both moves go up or both go down
  rcases hFirst with ⟨rfl, hab⟩ | ⟨rfl, hba⟩
  · rcases hSecond with ⟨-, hbc⟩ | ⟨hDown, -⟩
    · exact Or.inl ⟨rfl, Int.lt_trans hab hbc⟩
    · exact absurd hDown hTurn
  · rcases hSecond with ⟨hUp, -⟩ | ⟨-, hcb⟩
    · exact absurd hUp.symm hTurn
    · exact Or.inr ⟨rfl, Int.lt_trans hcb hba⟩

/-! ## Two halves -/

/-- A move in a direction is one between states that are ranked apart. -/
theorem apart_of_moved (h : scale.moved d x y = true) : scale.Apart x y := by
  obtain ⟨a, b, ha, hb, hWay⟩ := moved_iff.mp h
  exact ⟨a, b, ha, hb, by omega⟩

/-- Between ranked states the ranks alone say which way a move goes. -/
theorem moved_iff_of_ranked {a b : Int} (ha : scale.rank? x = some a)
    (hb : scale.rank? y = some b) :
    scale.moved d x y = true ↔
      (d = scale.axis.upward ∧ a < b) ∨ (d = scale.axis.downward ∧ b < a) := by
  simp only [moved_iff, ha, hb, Option.some.injEq]
  constructor
  · rintro ⟨_, _, rfl, rfl, hWay⟩
    exact hWay
  · intro hWay
    exact ⟨a, b, rfl, rfl, hWay⟩

/-- A move goes one of the two ways of the axis, and one only, exactly when its ends are ranked
apart. -/
theorem existsUnique_moved_iff (scale : Scale) (x y : String) :
    (∃! d, d ∈ scale.axis.directions ∧ scale.moved d x y = true) ↔ scale.Apart x y := by
  constructor
  · rintro ⟨d, ⟨-, hMoved⟩, -⟩
    exact apart_of_moved hMoved
  · rintro ⟨a, b, ha, hb, hNe⟩
    have hUpward := OrderedAxis.mem_directions_iff.mpr (Or.inl (Eq.refl scale.axis.upward))
    have hDownward := OrderedAxis.mem_directions_iff.mpr (Or.inr (Eq.refl scale.axis.downward))
    -- the lesser rank is at one end or at the other
    rcases Int.lt_or_gt_of_ne hNe with hLess | hMore
    · have hMoved := (moved_iff_of_ranked ha hb).mpr (Or.inl ⟨rfl, hLess⟩)
      refine ⟨scale.axis.upward, ⟨hUpward, hMoved⟩, ?_⟩
      rintro e ⟨-, hOther⟩
      rcases (moved_iff_of_ranked ha hb).mp hOther with ⟨hUp, -⟩ | ⟨-, hMore⟩
      · exact hUp
      · omega
    · have hMoved := (moved_iff_of_ranked ha hb).mpr (Or.inr ⟨rfl, hMore⟩)
      refine ⟨scale.axis.downward, ⟨hDownward, hMoved⟩, ?_⟩
      rintro e ⟨-, hOther⟩
      rcases (moved_iff_of_ranked ha hb).mp hOther with ⟨-, hLess⟩ | ⟨hDown, -⟩
      · omega
      · exact hDown

/-- Upward is toward the greater rank. -/
theorem decides_upward (scale : Scale) : scale.Decides (· < ·) scale.axis.upward :=
  fun _ _ => moved_upward_iff

/-- Downward is toward the lesser rank. -/
theorem decides_downward (scale : Scale) : scale.Decides (· > ·) scale.axis.downward :=
  fun _ _ => moved_downward_iff

/-- The empty name has no rank, so nothing is ranked apart from it. -/
theorem not_apart_of_empty (h : x = "" ∨ y = "") : ¬ scale.Apart x y := by
  have hEmpty : scale.rank? "" = none := rfl
  rintro ⟨a, b, ha, hb, -⟩
  rcases h with rfl | rfl
  · rw [hEmpty] at ha
    cases ha
  · rw [hEmpty] at hb
    cases hb

end Scale

/-! ## What can be read -/

/-- The set that asks for a move in one direction. -/
def PatternSet.ofDirection (d : Direction) : PatternSet :=
  ofPattern (.ofCondition ⟨.moved d, false⟩)

/-- A direction of the axis is read from its keyword. -/
theorem PatternSet.parse_keyword {axis : OrderedAxis} {d : Direction} (h : d ∈ axis.directions) :
    PatternSet.parse axis d.keyword = .ok (ofDirection d) := by
  -- the set is what is printed as the keyword, and what is printed is read back
  have hText : (ofDirection d).text = d.keyword := by
    cases d <;> rfl
  have hWellFormed : (ofDirection d).WellFormed axis := by
    intro c hc
    have hOnly : c = ⟨.moved d, false⟩ := by
      simpa [ofDirection, ofPattern, Pattern.ofCondition, conditions, NonEmpty.toList] using hc
    subst hOnly
    refine ⟨by simp [Condition.Kind.target?], ?_⟩
    intro e he
    cases he
    exact h
  rw [← hText]
  exact PatternSet.parse_text hWellFormed

/-- **The keywords of an axis are the two strict halves of its rank order.** Whatever the ranks, a
condition that was read has a direction of the axis or none, each direction of the axis can be
read, and it goes by the ranks, one way or the other. Between states that are ranked apart a move
goes exactly one of the two ways; between any others, an empty name among them, it goes no way at
all. A move back goes the other way. Each direction is irreflexive and transitive, and those of
the other axes never hold. A priority is raised when its rank shrinks, a status when its rank
grows, and a move between columns is forward when the rank grows. -/
theorem Scale.keywords_halve_ranks (axis : OrderedAxis) (ranks : RankTable) :
    let scale : Scale := ⟨axis, ranks⟩
    (∀ text set, PatternSet.parse axis text = .ok set → ∀ c ∈ set.conditions,
        ∀ d ∈ c.kind.direction?, d ∈ axis.directions) ∧
      (∀ d ∈ axis.directions, PatternSet.parse axis d.keyword = .ok (.ofDirection d) ∧
        (scale.Decides (· < ·) d ∨ scale.Decides (· > ·) d)) ∧
      (∀ x y, (∃! d, d ∈ axis.directions ∧ scale.moved d x y = true) ↔ scale.Apart x y) ∧
      (∀ x y, ¬ scale.Apart x y → ∀ d, scale.moved d x y = false) ∧
      (∀ x y, x = "" ∨ y = "" → ¬ scale.Apart x y) ∧
      (∀ d ∈ axis.directions, axis.opposite d ∈ axis.directions ∧ axis.opposite d ≠ d ∧
        ∀ x y, scale.moved (axis.opposite d) y x = scale.moved d x y) ∧
      (∀ d x, scale.moved d x x = false) ∧
      (∀ d x y z, scale.moved d x y = true → scale.moved d y z = true →
        scale.moved d x z = true) ∧
      (∀ d, d ∉ axis.directions → ∀ x y, scale.moved d x y = false) ∧
      Decides ⟨.priority, ranks⟩ (· > ·) .raised ∧
      Decides ⟨.status, ranks⟩ (· < ·) .raised ∧
      Decides ⟨.column, ranks⟩ (· < ·) .forward := by
  intro scale
  refine ⟨?_, ?_, existsUnique_moved_iff scale, ?_, ?_, ?_, moved_self scale, ?_, ?_, ?_, ?_, ?_⟩
  · intro text set hParse c hc d hd
    -- the parser has checked the directions against the axis
    exact (PatternSet.wellFormed_of_parse hParse c hc).direction d hd
  · intro d hd
    refine ⟨PatternSet.parse_keyword hd, ?_⟩
    rcases OrderedAxis.mem_directions_iff.mp hd with rfl | rfl
    · exact Or.inl (decides_upward scale)
    · exact Or.inr (decides_downward scale)
  · intro x y hNot d
    exact Bool.eq_false_iff.mpr fun hMoved => hNot (apart_of_moved hMoved)
  · intro x y
    exact not_apart_of_empty
  · intro d hd
    exact ⟨OrderedAxis.opposite_mem_directions hd, OrderedAxis.opposite_ne hd,
      fun x y => moved_opposite scale d x y⟩
  · intro d x y z
    exact moved_trans
  · intro d hd x y
    exact moved_eq_false_of_not_mem hd
  -- which of its two ways an axis calls `raised` or `forward` is all that is left
  · exact decides_downward ⟨.priority, ranks⟩
  · exact decides_upward ⟨.status, ranks⟩
  · exact decides_upward ⟨.column, ranks⟩

/-- For the built-in priorities, of which the most urgent ones have the lesser ranks. -/
theorem Scale.keywords_halve_ranks_priority :
    let scale : Scale := ⟨.priority, .builtinPriority⟩
    PatternSet.parse .priority "not:from:Normal:raised" =
        .ok (.ofPattern (.ofCondition ⟨.left "Normal" (some .raised), true⟩)) ∧
      Direction.raised ∈ OrderedAxis.priority.directions ∧
      scale.moved .raised "Normal" "HIGH" = true ∧ scale.moved .raised "HIGH" "Triage" = true ∧
      scale.moved .raised "Normal" "Triage" = true ∧
      scale.moved .lowered "Triage" "Normal" = true ∧
      ¬ scale.Apart "Normal" "" ∧ ∀ d, scale.moved d "Normal" "" = false := by
  intro scale
  have hParse : PatternSet.parse .priority "not:from:Normal:raised" =
      .ok (.ofPattern (.ofCondition ⟨.left "Normal" (some .raised), true⟩)) := rfl
  have hFirst : scale.moved .raised "Normal" "HIGH" = true := by decide
  have hSecond : scale.moved .raised "HIGH" "Triage" = true := by decide
  obtain ⟨hRead, -, -, hNowhere, hEmpty, hBack, -, hTrans, -⟩ :=
    keywords_halve_ranks .priority .builtinPriority
  have hRaised := hRead _ _ hParse _ List.mem_cons_self .raised rfl
  have hBoth := hTrans _ _ _ _ hFirst hSecond
  have hApart := hEmpty "Normal" "" (Or.inr rfl)
  exact ⟨hParse, hRaised, hFirst, hSecond, hBoth, ((hBack .raised hRaised).2.2 _ _).trans hBoth,
    hApart, hNowhere _ _ hApart⟩

end TicketTrail
