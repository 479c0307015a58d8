/-!
# Calendar dates

The proleptic Gregorian calendar, with a year 0 and years before it. Days are counted from
1970-01-01. Counting goes by years that start in March, so that the leap day is the last day of its
year: 400 such years are an era of 146097 days.
-/

namespace TicketTrail

/-- A day of the calendar, if `Date.isValid`. -/
structure Date where
  year : Int
  month : Nat
  day : Nat
deriving Repr, DecidableEq

namespace Date

/-- The year has a 29th of February. -/
def isLeapYear (year : Int) : Bool :=
  year % 4 == 0 && (year % 100 != 0 || year % 400 == 0)

/-- The number of days of a month. -/
def daysInMonth (year : Int) (month : Nat) : Nat :=
  if month == 2 then (if isLeapYear year then 29 else 28)
  else if month == 4 || month == 6 || month == 9 || month == 11 then 30
  else 31

/-- The date exists. -/
def isValid (date : Date) : Bool :=
  1 ≤ date.month && date.month ≤ 12 && 1 ≤ date.day && date.day ≤ daysInMonth date.year date.month

/-- The number of days from 1 March to the first day of the month that comes `monthsFromMarch`
months later. -/
def daysBeforeMonth (monthsFromMarch : Nat) : Nat :=
  (153 * monthsFromMarch + 2) / 5

/-- The number of days from 1970-01-01 to the date. -/
def toDays (date : Date) : Int :=
  let monthsFromMarch := (date.month + 9) % 12
  let year := if date.month ≤ 2 then date.year - 1 else date.year
  let era := year / 400
  let yearOfEra := year % 400
  let dayOfYear := daysBeforeMonth monthsFromMarch + date.day - 1
  era * 146097 + (yearOfEra * 365 + yearOfEra / 4 - yearOfEra / 100 + dayOfYear) - 719468

/-- The date that lies `days` days after 1970-01-01. -/
def ofDays (days : Int) : Date :=
  let era := (days + 719468) / 146097
  let dayOfEra := ((days + 719468) % 146097).toNat
  let century := min (dayOfEra / 36524) 3
  let dayOfCentury := dayOfEra - century * 36524
  let dayOfFourYears := dayOfCentury % 1461
  let yearOfFour := min (dayOfFourYears / 365) 3
  let dayOfYear := dayOfFourYears - yearOfFour * 365
  let yearOfEra := century * 100 + dayOfCentury / 1461 * 4 + yearOfFour
  let monthsFromMarch := (5 * dayOfYear + 2) / 153
  let month := (monthsFromMarch + 2) % 12 + 1
  let year := era * 400 + yearOfEra
  { year := if month ≤ 2 then year + 1 else year
    month
    day := dayOfYear - daysBeforeMonth monthsFromMarch + 1 }

end Date

end TicketTrail
