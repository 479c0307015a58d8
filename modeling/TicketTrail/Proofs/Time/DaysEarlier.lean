import TicketTrail.Time.Instant

/-!
# Counting days back

Going back a number of days can leave the calendar, and then the earliest instant stands in. On
the line of nanoseconds this is a subtraction that stops at the start of the calendar. A leap
second shares its place on the line with the second after it, so the place alone says which
instant is meant only when no leap second is asked for, and instants are compared by their parts
and not by their places; but a day is so much longer than a leap second that counting back keeps
the order all the same.

Main results:

* `Instant.position_daysEarlier` — the place of the instant that is counted back to;
* `Instant.daysEarlier_eq_words` — the count in signed 64-bit words, where nothing overflows;
* `Instant.daysEarlier_antitone` — more days lead no later.
-/

namespace TicketTrail

/-- Nanoseconds in a day. -/
def nanosPerDay : Nat := secondsPerDay * nanosPerSecond

namespace Instant

/-- The place of an instant on the line of nanoseconds since 1970-01-01T00:00:00Z. A leap second
is counted on from the last second of its minute. -/
def position (t : Instant) : Int :=
  t.second * nanosPerSecond + t.nano

theorem position_earliest : earliest.position = -8334601228800 * nanosPerSecond := by
  decide

theorem earliest_position_le (t : Instant) : earliest.position ≤ t.position := by
  have hSecond := t.second_ge
  rw [position_earliest, position]
  unfold nanosPerSecond
  omega

/-- Parts are refused that are outside the calendar, or a leap second where none can be. -/
theorem ofParts?_eq_none_iff {second : Int} {nano : Nat} :
    ofParts? second nano = none ↔
      ¬ (-8334601228800 ≤ second ∧ second ≤ 8210266876799 ∧ nano < 2 * nanosPerSecond ∧
        (nanosPerSecond ≤ nano → second % 60 = 59)) := by
  rw [ofParts?]
  split <;> simp_all

/-- Parts that are taken are those of the instant. -/
theorem ofParts?_eq_some_iff {second : Int} {nano : Nat} {t : Instant} :
    ofParts? second nano = some t ↔ t.second = second ∧ t.nano = nano := by
  constructor
  · intro h
    rw [ofParts?] at h
    split at h
    · cases h
      exact ⟨rfl, rfl⟩
    · cases h
  · rintro ⟨rfl, rfl⟩
    exact ofParts?_parts t

/-! ## Where the count starts -/

section WholeSecond

variable (t : Instant) {days : Nat}

theorem wholeSecond_zero : t.wholeSecond 0 = (t.second, t.nano) := by
  simp [wholeSecond]

/-- A count of days starts at a second that is no leap second, in the same place. -/
theorem wholeSecond_of_ne_zero (h : days ≠ 0) :
    (t.wholeSecond days).1 * nanosPerSecond + (t.wholeSecond days).2 = t.position ∧
      (t.wholeSecond days).2 < nanosPerSecond ∧
      t.second ≤ (t.wholeSecond days).1 ∧ (t.wholeSecond days).1 ≤ t.second + 1 := by
  have hNano := t.nano_lt
  rw [wholeSecond, position]
  unfold nanosPerSecond at *
  split
  · -- a leap second is moved to the second after it, with its nanoseconds less one second
    next hLeap =>
    refine ⟨?_, ?_, ?_, ?_⟩ <;> omega
  · next hPlain =>
    have hLt : t.nano < 1000000000 := Nat.lt_of_not_le fun hLeap => hPlain ⟨hLeap, h⟩
    refine ⟨rfl, hLt, ?_, ?_⟩ <;> omega

/-- The number of days does not matter to where the count starts, unless there are none. -/
theorem wholeSecond_eq {other : Nat} (h : days ≠ 0) (hOther : other ≠ 0) :
    t.wholeSecond days = t.wholeSecond other := by
  simp [wholeSecond, h, hOther]

/-- However many days are counted, the count starts within a second of the instant. -/
theorem wholeSecond_near (days : Nat) :
    t.second ≤ (t.wholeSecond days).1 ∧ (t.wholeSecond days).1 ≤ t.second + 1 := by
  by_cases h : days = 0
  · subst h
    rw [wholeSecond_zero]
    exact ⟨Int.le_refl _, by omega⟩
  · exact (t.wholeSecond_of_ne_zero h).2.2

end WholeSecond

/-! ## Where it leads -/

section DaysEarlier

variable (t : Instant) {days more : Nat}

theorem daysEarlier_eq (days : Nat) :
    t.daysEarlier days =
      (ofParts? ((t.wholeSecond days).1 - days * secondsPerDay) (t.wholeSecond days).2).getD
        earliest :=
  rfl

/-- A count of days ends at the second it asks for, or at the earliest instant when that second
comes before it. -/
theorem daysEarlier_of_ne_zero (h : days ≠ 0) :
    let second := (t.wholeSecond days).1 - days * secondsPerDay
    (second < earliest.second ∧ t.daysEarlier days = earliest) ∨
      (earliest.second ≤ second ∧ (t.daysEarlier days).second = second ∧
        (t.daysEarlier days).nano = (t.wholeSecond days).2) := by
  intro second
  obtain ⟨-, hNano, -, hLatest⟩ := t.wholeSecond_of_ne_zero h
  have hEnd := t.second_le
  have hFirst : earliest.second = -8334601228800 := rfl
  -- going back cannot pass the end of the calendar, even from a leap second
  have hBack : second ≤ 8210266876799 := by
    show (t.wholeSecond days).1 - days * secondsPerDay ≤ _
    unfold secondsPerDay
    omega
  have hEq : t.daysEarlier days = (ofParts? second (t.wholeSecond days).2).getD earliest :=
    t.daysEarlier_eq days
  cases hParts : ofParts? second (t.wholeSecond days).2 with
  | some r =>
    obtain ⟨hSecond, hRest⟩ := ofParts?_eq_some_iff.mp hParts
    have hReached := r.second_ge
    refine Or.inr ⟨by omega, ?_⟩
    rw [hEq, hParts]
    exact ⟨hSecond, hRest⟩
  | none =>
    refine Or.inl ⟨?_, by rw [hEq, hParts]; rfl⟩
    -- the parts can only be refused for coming too early
    have hRefused := ofParts?_eq_none_iff.mp hParts
    refine Int.lt_of_not_ge fun hReached => hRefused ⟨by omega, hBack, by omega, fun hLeap => ?_⟩
    omega

/-- Counting back is a subtraction that stops at the start of the calendar. -/
theorem position_daysEarlier (days : Nat) :
    (t.daysEarlier days).position =
      max (t.position - days * nanosPerDay) earliest.position := by
  by_cases hZero : days = 0
  · subst hZero
    have hLe := t.earliest_position_le
    rw [daysEarlier_zero]
    omega
  obtain ⟨hPlace, hNano, -⟩ := t.wholeSecond_of_ne_zero hZero
  have hFirst : earliest.second = -8334601228800 := rfl
  rw [← hPlace, position_earliest]
  unfold nanosPerDay nanosPerSecond secondsPerDay at *
  -- the two cases are the two sides of the maximum
  rcases t.daysEarlier_of_ne_zero hZero with ⟨hBefore, hEq⟩ | ⟨hReached, hSecond, hRest⟩
  · -- a second too early is too early on the line, whatever the nanoseconds
    unfold secondsPerDay at hBefore
    rw [hEq, position_earliest]
    unfold nanosPerSecond
    omega
  · unfold secondsPerDay at hReached hSecond
    rw [position, hSecond, hRest]
    unfold nanosPerSecond
    omega

/-- No leap second is counted back to. -/
theorem nano_daysEarlier_lt (h : days ≠ 0) : (t.daysEarlier days).nano < nanosPerSecond := by
  rcases t.daysEarlier_of_ne_zero h with ⟨-, hEq⟩ | ⟨-, -, hRest⟩
  · rw [hEq]
    decide
  · rw [hRest]
    exact (t.wholeSecond_of_ne_zero h).2.1

/-- More days lead no later. -/
theorem daysEarlier_antitone (h : days ≤ more) :
    (t.daysEarlier more).notAfter (t.daysEarlier days) = true := by
  rcases Nat.eq_or_lt_of_le h with rfl | hLess
  · exact notAfter_refl _
  have hMore : more ≠ 0 := by omega
  rcases t.daysEarlier_of_ne_zero hMore with ⟨-, hEq⟩ | ⟨hReached, hSecond, -⟩
  · rw [hEq]
    exact earliest_notAfter _
  rw [notAfter_iff]
  refine Or.inl ?_
  unfold secondsPerDay at hReached hSecond
  by_cases hZero : days = 0
  · -- a leap second is counted from the second after it, which a day makes up for
    have hNear := t.wholeSecond_near more
    subst hZero
    rw [daysEarlier_zero]
    omega
  · -- both counts start at the same second, so the spans decide
    have hStart := t.wholeSecond_eq hMore hZero
    rcases t.daysEarlier_of_ne_zero hZero with ⟨hBefore, -⟩ | ⟨-, hOther, -⟩
    · unfold secondsPerDay at hBefore
      rw [hStart] at hReached
      omega
    · unfold secondsPerDay at hOther
      rw [hStart] at hSecond
      omega

/-- A count that reaches the start of the calendar leads there. -/
theorem daysEarlier_eq_earliest (h : t.position - days * nanosPerDay ≤ earliest.position) :
    t.daysEarlier days = earliest := by
  have hPlace := t.position_daysEarlier days
  rw [Int.max_eq_right h, position_earliest, position] at hPlace
  have hSecond := (t.daysEarlier days).second_ge
  unfold nanosPerSecond at hPlace
  -- the earliest instant is the only one in its place, since it has no nanoseconds
  refine Instant.ext ?_ ?_
  · show (t.daysEarlier days).second = -8334601228800
    omega
  · show (t.daysEarlier days).nano = 0
    omega

end DaysEarlier

/-! ## In words -/

/-- The seconds of a number of days, in a signed 64-bit word. -/
def spanWord (days : UInt32) : Int64 :=
  Int64.ofInt days.toNat * Int64.ofInt secondsPerDay

theorem spanWord_eq (days : UInt32) :
    spanWord days = Int64.ofInt (days.toNat * secondsPerDay) :=
  (Int64.ofInt_mul _ _).symm

/-- The span of a number of days fits a word, and so does the number of its milliseconds. -/
theorem toInt_spanWord (days : UInt32) :
    (spanWord days).toInt = days.toNat * secondsPerDay ∧
      (spanWord days * 1000).toInt = days.toNat * secondsPerDay * 1000 := by
  have hDays := days.toNat_lt
  have hThousand : (1000 : Int64) = Int64.ofInt 1000 := by decide
  have hMillis : spanWord days * 1000 = Int64.ofInt (days.toNat * secondsPerDay * 1000) := by
    rw [spanWord_eq, hThousand, ← Int64.ofInt_mul]
  rw [hMillis, spanWord_eq]
  unfold secondsPerDay
  constructor
  · exact Int64.toInt_ofInt_of_le (by omega) (by omega)
  · exact Int64.toInt_ofInt_of_le (by omega) (by omega)

/-- The span can be taken off the second at which the count starts. -/
theorem toInt_sub_spanWord (t : Instant) (days : UInt32) :
    (Int64.ofInt (t.wholeSecond days.toNat).1 - spanWord days).toInt =
      (t.wholeSecond days.toNat).1 - days.toNat * secondsPerDay := by
  have hNear := t.wholeSecond_near days.toNat
  have hFirst := t.second_ge
  have hLast := t.second_le
  have hDays := days.toNat_lt
  rw [spanWord_eq, ← Int64.ofInt_sub]
  unfold secondsPerDay
  -- both are far from the ends of the word
  exact Int64.toInt_ofInt_of_le (by omega) (by omega)

/-- The count in signed 64-bit words, where nothing overflows. -/
theorem daysEarlier_eq_words (t : Instant) (days : UInt32) :
    t.daysEarlier days.toNat =
      (ofParts? (Int64.ofInt (t.wholeSecond days.toNat).1 - spanWord days).toInt
        (t.wholeSecond days.toNat).2).getD earliest := by
  rw [daysEarlier_eq, toInt_sub_spanWord]

end Instant

end TicketTrail
