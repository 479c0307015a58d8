import TicketTrail.Time.Calendar

/-!
# Instants

A point in time, to the nanosecond, within the years -262143 to 262142. A leap second has no second
of its own: it is the time past the last second of a minute, with a nanosecond count of 10⁹ and
more.

## Main results

* `Instant.daysEarlier_zero` — no days earlier is the instant itself;
* `Instant.earliest_notAfter` — the earliest instant lies after no other;
* `Instant.notAfter_total`, `Instant.notAfter_trans` — instants are in one line.
-/

namespace TicketTrail

/-- Nanoseconds in a second. -/
def nanosPerSecond : Nat := 1000000000

/-- Seconds in a day. -/
def secondsPerDay : Nat := 86400

/-- A point in time: whole seconds since 1970-01-01T00:00:00Z and nanoseconds on top. -/
structure Instant where
  second : Int
  nano : Nat
  second_ge : -8334601228800 ≤ second
  second_le : second ≤ 8210266876799
  nano_lt : nano < 2 * nanosPerSecond
  leap : nanosPerSecond ≤ nano → second % 60 = 59
deriving Repr, DecidableEq

namespace Instant

/-- The instant with the given parts, if there is one. -/
def ofParts? (second : Int) (nano : Nat) : Option Instant :=
  if h : -8334601228800 ≤ second ∧ second ≤ 8210266876799 ∧ nano < 2 * nanosPerSecond ∧
      (nanosPerSecond ≤ nano → second % 60 = 59) then
    some ⟨second, nano, h.1, h.2.1, h.2.2.1, h.2.2.2⟩
  else
    none

/-- The first instant of the calendar, -262143-01-01T00:00:00Z. -/
def earliest : Instant :=
  ⟨-8334601228800, 0, by decide, by decide, by decide, by decide⟩

/-- One instant lies before another. -/
def isBefore (a b : Instant) : Bool :=
  a.second < b.second || (a.second == b.second && a.nano < b.nano)

/-- One instant does not lie after another. -/
def notAfter (a b : Instant) : Bool :=
  !b.isBefore a

/-- The date of the instant in UTC. -/
def date (t : Instant) : Date :=
  Date.ofDays (t.second / secondsPerDay)

/-- The second at which a count of whole days starts: a leap second counts as the start of the next
second, unless no day is to be counted. -/
def wholeSecond (t : Instant) (days : Nat) : Int × Nat :=
  if nanosPerSecond ≤ t.nano ∧ days ≠ 0 then (t.second + 1, t.nano - nanosPerSecond)
  else (t.second, t.nano)

/-- The instant `days` days earlier, or the earliest one when the calendar does not reach that
far. -/
def daysEarlier (t : Instant) (days : Nat) : Instant :=
  let (second, nano) := t.wholeSecond days
  (ofParts? (second - days * secondsPerDay) nano).getD earliest

theorem ext {a b : Instant} (hSecond : a.second = b.second) (hNano : a.nano = b.nano) : a = b := by
  cases a
  cases b
  simp_all

@[simp] theorem ofParts?_parts (t : Instant) : ofParts? t.second t.nano = some t := by
  rw [ofParts?, dif_pos ⟨t.second_ge, t.second_le, t.nano_lt, t.leap⟩]

/-- No days earlier is the instant itself. -/
theorem daysEarlier_zero (t : Instant) : t.daysEarlier 0 = t := by
  simp [daysEarlier, wholeSecond]

theorem notAfter_iff {a b : Instant} :
    a.notAfter b = true ↔ a.second < b.second ∨ (a.second = b.second ∧ a.nano ≤ b.nano) := by
  simp only [notAfter, isBefore, Bool.not_eq_true', Bool.or_eq_false_iff, decide_eq_false_iff_not,
    Bool.and_eq_false_iff, beq_eq_false_iff_ne]
  omega

/-- The earliest instant lies after no other. -/
theorem earliest_notAfter (t : Instant) : earliest.notAfter t = true := by
  have hSecond := t.second_ge
  have hNano : earliest.nano = 0 := rfl
  have hFirst : earliest.second = -8334601228800 := rfl
  rw [notAfter_iff]
  omega

theorem notAfter_refl (t : Instant) : t.notAfter t = true := by
  simp [notAfter_iff]

theorem notAfter_trans {a b c : Instant} (hab : a.notAfter b = true) (hbc : b.notAfter c = true) :
    a.notAfter c = true := by
  rw [notAfter_iff] at *
  omega

theorem notAfter_total (a b : Instant) : a.notAfter b = true ∨ b.notAfter a = true := by
  rw [notAfter_iff, notAfter_iff]
  omega

end Instant

end TicketTrail
