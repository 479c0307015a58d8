import TicketTrail.Proofs.Search.Criteria
import TicketTrail.Proofs.Time.DaysEarlier
import TicketTrail.Search.Evaluation

/-!
# Ages

The criteria on the age of a ticket give a number of days each, from which a cut-off is counted
back. A greater number moves the cut-off back, so it lets more tickets through; and a number that
leads past the start of the calendar lets all of them through, as if nothing had been asked. Both
ages, by creation and by update, are one filter with a different time of the ticket.

Main results:

* `Filters.parse_withAge` — an age is read as its cut-off, whatever the other criteria;
* `Search.evaluate_withSince` — a cut-off is one more test on the ticket;
* `Search.ages_reach_back` — cut-offs stop at the start of the calendar, and greater ages find
  more.
-/

namespace TicketTrail

/-- Where the age of a ticket is counted from. -/
inductive Age where
  | created
  | updated
deriving DecidableEq

/-- The time of the ticket from which its age is counted. -/
def Age.timeOf : Age → Ticket → Instant
  | created, t => t.createdAt
  | updated, t => t.updatedAt

/-- The criteria with a greatest age, in days, or with none. -/
def Criteria.withAge (age : Age) (days : Option UInt32) (c : Criteria) : Criteria :=
  match age with
  | .created => { c with createdAfter := days }
  | .updated => { c with updatedAfter := days }

namespace Filters

/-- The filters with a cut-off for an age, or with none. -/
def withSince (age : Age) (since : Option Instant) (f : Filters) : Filters :=
  match age with
  | .created => { f with createdSince := since }
  | .updated => { f with updatedSince := since }

/-- An age is read as its cut-off, and the other criteria are read as without it. -/
theorem parse_withAge (now : Instant) (age : Age) (days : Option UInt32) (c : Criteria) :
    Filters.parse now (c.withAge age days) =
      (Filters.parse now c).map
        (withSince age (days.map fun n => now.daysEarlier n.toNat)) := by
  rw [parse_eq, parse_eq, map_unlessFault]
  -- neither age is a text, so none can be at fault
  cases age <;> rfl

/-- Criteria that can be read with one age can be read with any other or none, and to the same
filters but for the cut-off. -/
theorem parse_withAge_eq_ok {now : Instant} {age : Age} {days : Option UInt32} {c : Criteria}
    {f : Filters} (h : Filters.parse now (c.withAge age days) = .ok f) :
    ∃ g : Filters, f = g.withSince age (days.map fun n => now.daysEarlier n.toNat) ∧
      ∀ other : Option UInt32, Filters.parse now (c.withAge age other) =
        .ok (g.withSince age (other.map fun n => now.daysEarlier n.toNat)) := by
  rw [parse_withAge, map_eq_ok_iff] at h
  obtain ⟨g, hRead, rfl⟩ := h
  refine ⟨g, rfl, fun other => ?_⟩
  rw [parse_withAge, hRead]
  rfl

end Filters

namespace Search

variable {f : Filters} {catalog : Catalog} {tag : Option ResolvedProjects} {t : Ticket}

/-- A cut-off is one more test on the ticket. -/
theorem evaluate_withSince (age : Age) (since : Option Instant) :
    Search.evaluate ⟨f.withSince age since, catalog, tag⟩ t =
      if since.all (fun cut => cut.notAfter (age.timeOf t)) then
        Search.evaluate ⟨f.withSince age none, catalog, tag⟩ t
      else none := by
  -- the cut-off is looked at by one test only, and nothing else depends on it
  cases hPasses : since.all fun cut => cut.notAfter (age.timeOf t) with
  | true =>
    cases age with
    | created =>
      have hCreated : passesCreated ⟨f.withSince .created since, catalog, tag⟩ t = true := hPasses
      rw [evaluate, hCreated]
      rfl
    | updated =>
      have hUpdated : passesUpdated ⟨f.withSince .updated since, catalog, tag⟩ t = true := hPasses
      rw [evaluate, hUpdated]
      rfl
  | false =>
    cases age with
    | created =>
      have hCreated : passesCreated ⟨f.withSince .created since, catalog, tag⟩ t = false := hPasses
      rw [evaluate, hCreated]
      simp
    | updated =>
      have hUpdated : passesUpdated ⟨f.withSince .updated since, catalog, tag⟩ t = false := hPasses
      rw [evaluate, hUpdated]
      simp

/-- An earlier cut-off lets through what a later one does. -/
theorem evaluate_withSince_of_notAfter {age : Age} {earlier later : Instant} {g : Grounds}
    (hOrder : earlier.notAfter later = true)
    (h : Search.evaluate ⟨f.withSince age (some later), catalog, tag⟩ t = some g) :
    Search.evaluate ⟨f.withSince age (some earlier), catalog, tag⟩ t = some g := by
  rw [evaluate_withSince] at h ⊢
  rw [Option.all_some] at h ⊢
  -- a ticket that is late enough for the later cut-off is so for the earlier one
  by_cases hLater : later.notAfter (age.timeOf t) = true
  · rw [if_pos hLater] at h
    rw [if_pos (Instant.notAfter_trans hOrder hLater)]
    exact h
  · rw [if_neg hLater] at h
    cases h

/-- The start of the calendar as a cut-off is none at all. -/
theorem evaluate_withSince_earliest (age : Age) :
    Search.evaluate ⟨f.withSince age (some .earliest), catalog, tag⟩ t =
      Search.evaluate ⟨f.withSince age none, catalog, tag⟩ t := by
  rw [evaluate_withSince, Option.all_some, if_pos (Instant.earliest_notAfter _)]

/-- **Ages reach back to the start of the calendar and no further.** The cut-off of an age of `n`
days is where `n` days take the present back to, or the earliest instant if that comes later; it
is the present itself for no days and else no leap second. It can be computed in signed 64-bit
words without an overflow: the span of the days fits a word even when it is counted in
milliseconds, and so does the second it leads to. A greater age has a cut-off that is not after
that of a smaller one, and with it, all other criteria being the same, every ticket passes that
passed with the smaller one, on the same grounds. With an age that leads to the start of the
calendar or past it each ticket passes or fails as without an age. -/
theorem ages_reach_back (now : Instant) :
    (∀ n : UInt32,
        (now.daysEarlier n.toNat).position =
          max (now.position - n.toNat * nanosPerDay) Instant.earliest.position ∧
        (n.toNat = 0 → now.daysEarlier n.toNat = now) ∧
        (n.toNat ≠ 0 → (now.daysEarlier n.toNat).nano < nanosPerSecond) ∧
        (Instant.spanWord n * 1000).toInt = n.toNat * secondsPerDay * 1000 ∧
        (Int64.ofInt (now.wholeSecond n.toNat).1 - Instant.spanWord n).toInt =
          (now.wholeSecond n.toNat).1 - n.toNat * secondsPerDay ∧
        now.daysEarlier n.toNat =
          (Instant.ofParts? (Int64.ofInt (now.wholeSecond n.toNat).1 - Instant.spanWord n).toInt
            (now.wholeSecond n.toNat).2).getD .earliest) ∧
      (∀ n m : UInt32, n ≤ m →
        (now.daysEarlier m.toNat).notAfter (now.daysEarlier n.toNat) = true) ∧
      (∀ (age : Age) (c : Criteria) (n m : UInt32) (f : Filters), n ≤ m →
        Filters.parse now (c.withAge age (some n)) = .ok f →
        ∃ f', Filters.parse now (c.withAge age (some m)) = .ok f' ∧
          ∀ catalog tag t g, Search.evaluate ⟨f, catalog, tag⟩ t = some g →
            Search.evaluate ⟨f', catalog, tag⟩ t = some g) ∧
      ∀ (age : Age) (c : Criteria) (n : UInt32) (f : Filters),
        now.position - n.toNat * nanosPerDay ≤ Instant.earliest.position →
        Filters.parse now (c.withAge age (some n)) = .ok f →
        ∃ f', Filters.parse now (c.withAge age none) = .ok f' ∧
          ∀ catalog tag t, Search.evaluate ⟨f, catalog, tag⟩ t =
            Search.evaluate ⟨f', catalog, tag⟩ t := by
  refine ⟨fun n => ⟨now.position_daysEarlier n.toNat, fun hZero => ?_, now.nano_daysEarlier_lt,
    (Instant.toInt_spanWord n).2, now.toInt_sub_spanWord n, now.daysEarlier_eq_words n⟩,
    fun n m hLe => now.daysEarlier_antitone hLe, ?_, ?_⟩
  · rw [hZero, now.daysEarlier_zero]
  · intro age c n m f hLe hRead
    obtain ⟨g, rfl, hOther⟩ := Filters.parse_withAge_eq_ok hRead
    exact ⟨_, hOther (some m), fun catalog tag t grounds =>
      evaluate_withSince_of_notAfter (now.daysEarlier_antitone hLe)⟩
  · intro age c n f hReach hRead
    obtain ⟨g, rfl, hOther⟩ := Filters.parse_withAge_eq_ok hRead
    refine ⟨_, hOther none, fun catalog tag t => ?_⟩
    -- the cut-off is the start of the calendar, which no ticket is before
    rw [Option.map_some, now.daysEarlier_eq_earliest hReach]
    exact evaluate_withSince_earliest age

/-- The leap second at the end of 2016. -/
def leapSecond : Instant :=
  (Instant.ofParts? 1483228799 1500000000).getD .earliest

/-- A ticket created in the last hours of 2016. -/
def lateTicket : Ticket where
  id := 7
  title := "Crash"
  status := "open"
  priority := "80"
  createdAt := (Instant.ofParts? 1483220000 0).getD .earliest
  updatedAt := leapSecond

/-- From a leap second, with an age of one day, of a month, and of eleven million years. -/
theorem ages_reach_back_leapSecond :
    let catalog := Catalog.ofSnapshot {} {}
    let c : Criteria := { query := some "crash", updatedAfter := some 0 }
    let first : Ticket := { lateTicket with createdAt := .earliest }
    (leapSecond.daysEarlier 1).position = 1483142400500000000 ∧
      (leapSecond.daysEarlier 4294967295).notAfter (leapSecond.daysEarlier 1) = true ∧
      ∃ day month ages unasked : Filters,
        Filters.parse leapSecond (c.withAge .created (some 1)) = .ok day ∧
        Filters.parse leapSecond (c.withAge .created (some 30)) = .ok month ∧
        Filters.parse leapSecond (c.withAge .created (some 4294967295)) = .ok ages ∧
        Filters.parse leapSecond (c.withAge .created none) = .ok unasked ∧
        Search.evaluate ⟨day, catalog, none⟩ lateTicket = some ⟨[], none, none⟩ ∧
        Search.evaluate ⟨month, catalog, none⟩ lateTicket = some ⟨[], none, none⟩ ∧
        Search.evaluate ⟨ages, catalog, none⟩ first =
          Search.evaluate ⟨unasked, catalog, none⟩ first := by
  intro catalog c first
  obtain ⟨hCut, hOrder, hMore, hAll⟩ := ages_reach_back leapSecond
  have hDay : Filters.parse leapSecond (c.withAge .created (some 1)) =
      .ok ((c.withAge .created (some 1)).filters leapSecond) := rfl
  have hAges : Filters.parse leapSecond (c.withAge .created (some 4294967295)) =
      .ok ((c.withAge .created (some 4294967295)).filters leapSecond) := rfl
  -- what passes with a day passes with a month, and the greatest age asks for nothing
  obtain ⟨month, hMonth, hPasses⟩ := hMore .created c 1 30 _ (by decide) hDay
  obtain ⟨unasked, hUnasked, hSame⟩ := hAll .created c 4294967295 _ (by decide) hAges
  have hPassed : Search.evaluate ⟨(c.withAge .created (some 1)).filters leapSecond, catalog, none⟩
      lateTicket = some ⟨[], none, none⟩ := by decide
  exact ⟨(hCut 1).1.trans (by decide), hOrder 1 4294967295 (by decide), _, month, _, unasked, hDay,
    hMonth, hAges, hUnasked, hPassed, hPasses _ _ _ _ hPassed, hSame _ _ _⟩

end Search

end TicketTrail
