import TicketTrail.Time.Calendar

/-!
# Dates and days

Counting the days to a date undoes finding the date of a day. A day is taken apart by
eras of 400 years, centuries, spans of four years and years, each of which starts in
March; only the last century of an era and the last year of a span are a day longer
than the others, and that is where a plain division would go one too far. What is left
is the day of a year, and from it follow the month and the day of the month.

Main results:

* `Date.toDays_ofDays` — the date of a day lies that many days from 1970-01-01;
* `Date.isValid_ofDays` — it is a date that exists;
* `Date.year_ofDays_bounds` — the years of the days that an instant can have.
-/

namespace TicketTrail.Date

/-! ## The year and the day in an era -/

/-- The parts of a day of an era: its century, the span of four years in that, the year
in that, and the day of the year. -/
structure EraParts (dayOfEra century span yearOfFour dayOfYear : Nat) : Prop where
  sum : 36524 * century + 1461 * span + 365 * yearOfFour + dayOfYear = dayOfEra
  century_le : century ≤ 3
  span_le : span ≤ 24
  year_le : yearOfFour ≤ 3
  day_le : dayOfYear ≤ 365
  /-- A day past 365 is at the end of a span, and of an era if the span is the last one of
  a century. -/
  last : dayOfYear = 365 → yearOfFour = 3 ∧ (span = 24 → century = 3)

/-- The divisions of a day of an era give its parts, the two that can go one too far being
held back. -/
theorem eraParts_of_divisions {dayOfEra century dayOfCentury yearOfFour dayOfYear : Nat}
    (h : dayOfEra < 146097) (hCentury : century = min (dayOfEra / 36524) 3)
    (hRest : dayOfCentury = dayOfEra - century * 36524)
    (hYear : yearOfFour = min (dayOfCentury % 1461 / 365) 3)
    (hDay : dayOfYear = dayOfCentury % 1461 - yearOfFour * 365) :
    EraParts dayOfEra century (dayOfCentury / 1461) yearOfFour dayOfYear := by
  have hDays : 36524 * century + dayOfCentury = dayOfEra := by omega
  -- only the last century has a day 36524
  have hRestLe : dayOfCentury ≤ 36524 := by omega
  have hLastCentury : dayOfCentury = 36524 → century = 3 := by omega
  have hCenturyLe : century ≤ 3 := by omega
  clear hCentury hRest
  have hFour : 365 * yearOfFour + dayOfYear = dayOfCentury % 1461 := by omega
  have hYearLe : yearOfFour ≤ 3 := by omega
  -- only the last year of a span has a day 365
  have hLastYear : dayOfYear = 365 → yearOfFour = 3 := by omega
  refine ⟨by omega, hCenturyLe, by omega, hYearLe, by omega, fun hLast => ⟨hLastYear hLast, ?_⟩⟩
  intro hSpan
  exact hLastCentury (by omega)

section EraParts

variable {dayOfEra century span yearOfFour dayOfYear : Nat}
  (h : EraParts dayOfEra century span yearOfFour dayOfYear)

include h

/-- The days before the year of the era are 365 for each year before it, and one for
each leap year. -/
theorem EraParts.day_eq {yearOfEra : Nat}
    (hYear : yearOfEra = 100 * century + 4 * span + yearOfFour) :
    yearOfEra < 400 ∧
      365 * yearOfEra + yearOfEra / 4 + dayOfYear = dayOfEra + yearOfEra / 100 := by
  obtain ⟨hSum, hCentury, hSpan, hFour, -, -⟩ := h
  have hFours : yearOfEra / 4 = 25 * century + span := by omega
  have hHundreds : yearOfEra / 100 = century := by omega
  omega

/-- The year after the one that holds a day 365 is a leap year. -/
theorem EraParts.leap {yearOfEra : Nat}
    (hYear : yearOfEra = 100 * century + 4 * span + yearOfFour) (hLast : dayOfYear = 365)
    (era : Int) : isLeapYear (400 * era + yearOfEra + 1) = true := by
  obtain ⟨-, hCentury, hSpan, -, -, hEnd⟩ := h
  obtain ⟨hFour, hEra⟩ := hEnd hLast
  simp only [isLeapYear, Bool.and_eq_true, Bool.or_eq_true, beq_iff_eq, bne_iff_ne, ne_eq]
  refine ⟨by omega, ?_⟩
  -- the last span of a century ends in a year that 100 divides, and then 400 has to
  by_cases hSpanLast : span = 24
  · have := hEra hSpanLast
    omega
  · omega

end EraParts

/-! ## The month and the day -/

/-- How many months after March a day of a year lies. -/
def monthsFromMarch (dayOfYear : Nat) : Nat :=
  (5 * dayOfYear + 2) / 153

/-- The month in which a day of a year lies. -/
def monthOf (dayOfYear : Nat) : Nat :=
  (monthsFromMarch dayOfYear + 2) % 12 + 1

/-- The day of the month for a day of a year. -/
def dayOf (dayOfYear : Nat) : Nat :=
  dayOfYear - daysBeforeMonth (monthsFromMarch dayOfYear) + 1

/-- The date that lies `dayOfYear` days after 1 March of the year. -/
def ofMarch (year : Int) (dayOfYear : Nat) : Date where
  year := if monthOf dayOfYear ≤ 2 then year + 1 else year
  month := monthOf dayOfYear
  day := dayOf dayOfYear

/-- The number of days from 1 March of the year 0 to 1 March of another year. -/
def marchDay (year : Int) : Int :=
  365 * year + year / 4 - year / 100 + year / 400

/-- The days before a month and the day of the month make up the day of the year. -/
theorem dayOf_add {dayOfYear : Nat} (h : dayOfYear ≤ 365) :
    (monthOf dayOfYear + 9) % 12 = monthsFromMarch dayOfYear ∧
      daysBeforeMonth (monthsFromMarch dayOfYear) + dayOf dayOfYear = dayOfYear + 1 := by
  unfold monthOf dayOf daysBeforeMonth monthsFromMarch
  omega

/-- Only the last day of February goes past the days of a month in a year that is no leap
year. -/
theorem dayOf_le {dayOfYear : Nat} (h : dayOfYear < 365) :
    dayOf dayOfYear ≤ daysInMonth 1 (monthOf dayOfYear) := by
  revert dayOfYear
  decide +kernel

/-- No month is shorter than in a year that is no leap year. -/
theorem daysInMonth_ge (year : Int) (month : Nat) :
    daysInMonth 1 month ≤ daysInMonth year month := by
  unfold daysInMonth
  rw [show isLeapYear 1 = false from rfl, if_neg Bool.false_ne_true]
  split
  · split <;> decide
  · exact Nat.le_refl _

/-- Counting from March gives a date that exists, unless there is no 29th of February to
count to. -/
theorem isValid_ofMarch {year : Int} {dayOfYear : Nat} (h : dayOfYear ≤ 365)
    (hLeap : dayOfYear = 365 → isLeapYear (year + 1) = true) :
    (ofMarch year dayOfYear).isValid = true := by
  have hMonth : 1 ≤ monthOf dayOfYear ∧ monthOf dayOfYear ≤ 12 := by
    unfold monthOf
    omega
  have hDay : dayOf dayOfYear ≤ daysInMonth (ofMarch year dayOfYear).year (monthOf dayOfYear) := by
    by_cases hLast : dayOfYear = 365
    · -- the 29th of February, in the year that begins after the March year
      subst hLast
      show 29 ≤ daysInMonth (year + 1) 2
      simp [daysInMonth, hLeap rfl]
    · exact Nat.le_trans (dayOf_le (by omega)) (daysInMonth_ge _ _)
  have hFirst : 1 ≤ dayOf dayOfYear := Nat.succ_pos _
  simp only [isValid, Bool.and_eq_true, decide_eq_true_eq]
  exact ⟨⟨⟨hMonth.1, hMonth.2⟩, hFirst⟩, hDay⟩

/-- Counting the days to such a date is adding them to those before March. -/
theorem toDays_ofMarch {year : Int} {dayOfYear : Nat} (h : dayOfYear ≤ 365) :
    (ofMarch year dayOfYear).toDays = marchDay year + dayOfYear - 719468 := by
  obtain ⟨hMonths, hDays⟩ := dayOf_add h
  have hDayOfYear : daysBeforeMonth (monthsFromMarch dayOfYear) + dayOf dayOfYear - 1 =
      dayOfYear := by omega
  -- the year of a date in January or February is the one that began the March before
  have hYear : (if (ofMarch year dayOfYear).month ≤ 2 then (ofMarch year dayOfYear).year - 1
      else (ofMarch year dayOfYear).year) = year := by
    simp only [ofMarch]
    split <;> omega
  simp only [toDays, hYear]
  simp only [ofMarch, hMonths, hDayOfYear, marchDay]
  omega

/-! ## Days and dates -/

/-- The date of a day lies some days after 1 March of some year, where a day 365 is only in
a year with the 29th of February. -/
theorem ofDays_eq_ofMarch (days : Int) :
    ∃ year dayOfYear, ofDays days = ofMarch year dayOfYear ∧ dayOfYear ≤ 365 ∧
      (dayOfYear = 365 → isLeapYear (year + 1) = true) ∧
      marchDay year + dayOfYear = days + 719468 := by
  obtain ⟨era, hEra⟩ : ∃ n, n = (days + 719468) / 146097 := ⟨_, rfl⟩
  obtain ⟨dayOfEra, hDayOfEra⟩ : ∃ n, n = ((days + 719468) % 146097).toNat := ⟨_, rfl⟩
  obtain ⟨century, hCentury⟩ : ∃ n, n = min (dayOfEra / 36524) 3 := ⟨_, rfl⟩
  obtain ⟨rest, hRest⟩ : ∃ n, n = dayOfEra - century * 36524 := ⟨_, rfl⟩
  obtain ⟨yearOfFour, hYear⟩ : ∃ n, n = min (rest % 1461 / 365) 3 := ⟨_, rfl⟩
  obtain ⟨dayOfYear, hDay⟩ : ∃ n, n = rest % 1461 - yearOfFour * 365 := ⟨_, rfl⟩
  have hParts := eraParts_of_divisions (by omega) hCentury hRest hYear hDay
  refine ⟨era * 400 + (century * 100 + rest / 1461 * 4 + yearOfFour : Nat), dayOfYear, ?_,
    hParts.day_le, fun hLast => ?_, ?_⟩
  · rw [hDay, hYear, hRest, hCentury, hDayOfEra, hEra]
    rfl
  · have hLeap := hParts.leap rfl hLast era
    rwa [Int.mul_comm era, Nat.mul_comm century, Nat.mul_comm (rest / 1461)]
  · obtain ⟨hLt, hSum⟩ := hParts.day_eq rfl
    rw [Nat.mul_comm century, Nat.mul_comm (rest / 1461)]
    generalize 100 * century + 4 * (rest / 1461) + yearOfFour = yearOfEra at hLt hSum ⊢
    clear hDay hYear hRest hCentury hParts
    -- an era has 97 leap years
    have hFours : (era * 400 + (yearOfEra : Int)) / 4 = 100 * era + yearOfEra / 4 := by omega
    have hHundreds : (era * 400 + (yearOfEra : Int)) / 100 = 4 * era + yearOfEra / 100 := by omega
    have hEras : (era * 400 + (yearOfEra : Int)) / 400 = era := by omega
    rw [marchDay, hFours, hHundreds, hEras]
    omega

/-- **Counting the days to a date** undoes finding the date. -/
theorem toDays_ofDays (days : Int) : (ofDays days).toDays = days := by
  obtain ⟨year, dayOfYear, hEq, hDay, -, hSum⟩ := ofDays_eq_ofMarch days
  rw [hEq, toDays_ofMarch hDay, hSum]
  omega

/-- The date of a day is one that exists. -/
theorem isValid_ofDays (days : Int) : (ofDays days).isValid = true := by
  obtain ⟨year, dayOfYear, hEq, hDay, hLeap, -⟩ := ofDays_eq_ofMarch days
  rw [hEq]
  exact isValid_ofMarch hDay hLeap

theorem marchDay_mono {year year' : Int} (h : year ≤ year') : marchDay year ≤ marchDay year' := by
  unfold marchDay
  omega

/-- January and February are what is left of a year after 306 days from March on. -/
theorem monthOf_le_two_iff {dayOfYear : Nat} (h : dayOfYear < 366) :
    monthOf dayOfYear ≤ 2 ↔ 306 ≤ dayOfYear := by
  revert dayOfYear
  decide +kernel

/-- The days of the calendar are in its years. -/
theorem year_ofDays_bounds {days : Int} (hFirst : -96465292 ≤ days) (hLast : days ≤ 95026236) :
    -262143 ≤ (ofDays days).year ∧ (ofDays days).year ≤ 262142 := by
  obtain ⟨year, dayOfYear, hEq, hDay, -, hSum⟩ := ofDays_eq_ofMarch days
  have hMonth := monthOf_le_two_iff (Nat.lt_succ_of_le hDay)
  -- the year in question is told by the first days of March at the ends of the calendar
  have hBefore : year ≤ -262144 → marchDay year ≤ -95746130 := marchDay_mono
  have hLong : year ≤ -262145 → marchDay year ≤ -95746496 := marchDay_mono
  have hAfter : 262142 ≤ year → 95745399 ≤ marchDay year := marchDay_mono
  have hBeyond : 262143 ≤ year → 95745764 ≤ marchDay year := marchDay_mono
  rw [hEq]
  by_cases hNext : monthOf dayOfYear ≤ 2
  · simp only [ofMarch, if_pos hNext]
    omega
  · simp only [ofMarch, if_neg hNext]
    omega

end TicketTrail.Date
