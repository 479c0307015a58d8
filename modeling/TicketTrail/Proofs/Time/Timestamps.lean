import Mathlib.Algebra.Group.Nat.Defs
import TicketTrail.Proofs.Numeral
import TicketTrail.Proofs.Time.Calendar
import TicketTrail.Time.Rfc3339

/-!
# Timestamps that are read back

An instant is written in UTC: the digits of its date and its time of day, a fraction of
0, 3, 6 or 9 digits, and a `Z`. Each part is a numeral of fixed width behind a separator,
so the reader, which takes far more than this form, takes the parts off one by one and
comes back to the instant. Two parts are of another kind: a year that does not fit four
digits is written with its sign and read to the end of its digits, and a leap second is
written as second 60 of its minute.

Main results:

* `Timestamp.calendarDate_append`, `Timestamp.timeOfDay_append` — the date and the time
  are read back, with the text after them;
* `Instant.parse?_text` — an instant is read back from its text;
* `Instant.isCanonical_text` — the form of that text.
-/

namespace TicketTrail

namespace Timestamp

/-! ## Numbers -/

theorem toList_padded (width n : Nat) :
    (padded width n).toList =
      List.replicate (width - (Nat.toDigits 10 n).length) '0' ++ Nat.toDigits 10 n := by
  rw [padded, String.toList_append, String.toList_ofList, Nat.toString_eq_repr, Nat.toList_repr,
    ← String.length_toList, Nat.toList_repr]

theorem isNumeral_padded (width n : Nat) : IsNumeral (padded width n).toList n := by
  rw [toList_padded]
  exact (isNumeral_toDigits n).zeros_append _

/-- A number that fits the width is written in that width. -/
theorem length_padded {width n : Nat} (hWidth : 0 < width) (h : n < 10 ^ width) :
    (padded width n).toList.length = width := by
  have hFits := (Nat.length_toDigits_le_iff (b := 10) (by decide) hWidth).mpr h
  rw [toList_padded, List.length_append, List.length_replicate]
  omega

/-- A numeral is read up to the text after it. -/
theorem number_append {ds rest : List Char} {n most : Nat} (h : IsNumeral ds n)
    (hMost : ds.length ≤ most) (hEnd : EndsNumber rest) :
    number most (ds ++ rest) = some (n, rest) := by
  -- the bound on the width cuts off nothing but what comes after the numeral
  have hTake : ((ds ++ rest).take most).takeWhile Char.isDigit = ds := by
    rw [List.take_append, List.take_of_length_le hMost]
    refine h.takeWhile_append fun c hc => hEnd c ?_
    cases rest with
    | nil => simp at hc
    | cons d rest =>
      cases hLeft : most - ds.length with
      | zero => simp [hLeft] at hc
      | succ k => simpa [hLeft] using hc
  rw [number, hTake]
  show (if ds.isEmpty then none else some (natOfDigits ds, (ds ++ rest).drop ds.length)) = _
  rw [h.value, List.drop_left, if_neg (by simpa using h.ne_nil)]

/-- A numeral within its bounds is read as a field. -/
theorem field_append {ds rest : List Char} {n least most : Nat} (h : IsNumeral ds n)
    (hLength : ds.length ≤ 2) (hLeast : least ≤ n) (hMost : n ≤ most)
    (hEnd : EndsNumber rest) :
    field least most (ds ++ rest) = some (n, rest) := by
  rw [field, h.trimStart_append, number_append h hLength hEnd]
  simp [hLeast, hMost]

/-- A number of two digits is read as a field. -/
theorem field_padded {n least most : Nat} {rest : List Char} (hLeast : least ≤ n) (hMost : n ≤ most)
    (hFits : n < 100) (hEnd : EndsNumber rest) :
    field least most ((padded 2 n).toList ++ rest) = some (n, rest) :=
  field_append (isNumeral_padded 2 n) (Nat.le_of_eq (length_padded (by decide) hFits)) hLeast hMost
    hEnd

theorem trimStart_cons {c : Char} (h : Text.isBlank c = false) (rest : List Char) :
    Text.trimStartChars (c :: rest) = c :: rest := by
  rw [Text.trimStartChars_eq_self_iff]
  intro d hd
  cases hd
  exact h

theorem separator_cons {c : Char} (h : Text.isBlank c = false) (rest : List Char) :
    separator c (c :: rest) = some rest := by
  rw [separator, trimStart_cons h]
  exact if_pos rfl

/-! ## Dates -/

/-- What follows a sign is read to the end of its digits. -/
theorem number_signed (n : Nat) {rest : List Char} (hEnd : EndsNumber rest) :
    number ((padded 4 n).toList ++ rest).length ((padded 4 n).toList ++ rest) = some (n, rest) :=
  number_append (isNumeral_padded 4 n) (by simp) hEnd

theorem year_minus (n : Nat) {rest : List Char} (hEnd : EndsNumber rest) :
    year ('-' :: ((padded 4 n).toList ++ rest)) = some (-(n : Int), rest) := by
  rw [year, trimStart_cons (by decide)]
  simp only [number_signed n hEnd, Option.bind_eq_bind, Option.bind_some]

theorem year_plus (n : Nat) {rest : List Char} (hEnd : EndsNumber rest) :
    year ('+' :: ((padded 4 n).toList ++ rest)) = some ((n : Int), rest) := by
  rw [year, trimStart_cons (by decide)]
  simp only [number_signed n hEnd, Option.bind_eq_bind, Option.bind_some]

/-- A year is read back, with four digits or with its sign. -/
theorem year_append (y : Int) {rest : List Char} (hEnd : EndsNumber rest) :
    year ((yearText y).toList ++ rest) = some (y, rest) := by
  unfold yearText
  split
  · next hFour =>
    have hNumeral := isNumeral_padded 4 y.toNat
    have hLength : (padded 4 y.toNat).toList.length = 4 :=
      length_padded (by decide) (by omega)
    have hNumber := number_append hNumeral (Nat.le_of_eq hLength) hEnd
    rw [year, hNumeral.trimStart_append]
    -- the first digit is no sign, so four digits are read
    split
    · next hSign =>
      have hDigit := hNumeral.isDigit_of_append_eq hSign
      exact absurd hDigit (by decide)
    · next hSign =>
      have hDigit := hNumeral.isDigit_of_append_eq hSign
      exact absurd hDigit (by decide)
    · rw [hNumber]
      show some ((y.toNat : Int), rest) = _
      rw [Int.toNat_of_nonneg hFour.1]
  · next hSigned =>
    by_cases hNegative : y < 0
    · rw [if_pos hNegative, String.toList_append]
      refine (year_minus y.natAbs hEnd).trans ?_
      rw [show -(y.natAbs : Int) = y by omega]
    · rw [if_neg hNegative, String.toList_append]
      refine (year_plus y.natAbs hEnd).trans ?_
      rw [show (y.natAbs : Int) = y by omega]

/-- A date of the calendar is read back. -/
theorem calendarDate_append {date : Date} (hValid : date.isValid = true)
    (hYear : -262143 ≤ date.year ∧ date.year ≤ 262142) {rest : List Char}
    (hEnd : EndsNumber rest) :
    calendarDate ((dateText date).toList ++ rest) = some (date, rest) := by
  have hFields := hValid
  simp only [Date.isValid, Bool.and_eq_true, decide_eq_true_eq] at hFields
  obtain ⟨⟨⟨hMonth, hMonthLe⟩, hDay⟩, hDayLe⟩ := hFields
  -- the day is first read as that of any month, and only then checked against its own
  have hDayMost : date.day ≤ 31 := by
    refine hDayLe.trans ?_
    unfold Date.daysInMonth
    split
    · split <;> decide
    · split <;> decide
  have hText : (dateText date).toList ++ rest =
      (yearText date.year).toList ++ '-' :: ((padded 2 date.month).toList ++
        '-' :: ((padded 2 date.day).toList ++ rest)) := by
    simp [dateText, String.toList_append]
  have hDash : Text.isBlank '-' = false := by decide
  have hDashEnds : ∀ s, EndsNumber ('-' :: s) := endsNumber_cons (by decide)
  have hMonthRead := field_padded hMonth hMonthLe (by omega)
    (hDashEnds ((padded 2 date.day).toList ++ rest))
  have hDayRead := field_padded hDay hDayMost (by omega) hEnd
  rw [hText, calendarDate, year_append _ (hDashEnds _)]
  simp only [Option.bind_eq_bind, Option.bind_some, separator_cons hDash, hMonthRead, hDayRead]
  rw [if_pos ⟨hYear.1, hYear.2, hValid⟩]

/-! ## Times of day -/

/-- A fraction is the number of nanoseconds, to as many digits as are given. -/
theorem fraction_padded {width n : Nat} (hWidth : 0 < width) (hMost : width ≤ 9)
    (hFits : n < 10 ^ width) {rest : List Char} (hEnd : EndsNumber rest) :
    fraction ('.' :: ((padded width n).toList ++ rest)) =
      some (n * Nat.pow 10 (9 - width), rest) := by
  have hLength := length_padded hWidth hFits
  -- nine digits are as many as are read, and fewer are filled up with zeros
  have hNumber := number_append (isNumeral_padded width n) (hLength.trans_le hMost) hEnd
  have hDrop : rest.dropWhile Char.isDigit = rest := by
    cases rest with
    | nil => rfl
    | cons c rest => exact List.dropWhile_cons_of_neg (by simp [hEnd c rfl])
  simp only [fraction, hNumber, Option.bind_eq_bind, Option.bind_some, List.length_append, hLength,
    Nat.add_sub_cancel, hDrop]

/-- A fraction is read back. -/
theorem fraction_append {nano : Nat} (h : nano < nanosPerSecond) (rest : List Char) :
    fraction ((fractionText nano).toList ++ 'Z' :: rest) = some (nano, 'Z' :: rest) := by
  have hEnd : EndsNumber ('Z' :: rest) := endsNumber_cons (by decide) rest
  unfold nanosPerSecond at h
  unfold fractionText
  split
  · next hZero =>
    rw [hZero]
    rfl
  · split
    · next hMillis =>
      rw [String.toList_append]
      refine (fraction_padded (by decide) (by decide) (by omega) hEnd).trans ?_
      -- the digits that are not written are zeros
      rw [Nat.div_mul_cancel (Nat.dvd_of_mod_eq_zero hMillis)]
    · split
      · next hMicros =>
        rw [String.toList_append]
        refine (fraction_padded (by decide) (by decide) (by omega) hEnd).trans ?_
        rw [Nat.div_mul_cancel (Nat.dvd_of_mod_eq_zero hMicros)]
      · rw [String.toList_append]
        refine (fraction_padded (by decide) (by decide) (by omega) hEnd).trans ?_
        rw [show Nat.pow 10 (9 - 9) = 1 from rfl, Nat.mul_one]

/-- A fraction, or the end of the text where there is none, ends the number before it. -/
theorem endsNumber_fractionText (nano : Nat) (rest : List Char) :
    EndsNumber ((fractionText nano).toList ++ 'Z' :: rest) := by
  unfold fractionText
  split
  · exact endsNumber_cons (by decide) rest
  · split
    · rw [String.toList_append]
      exact endsNumber_cons (by decide) _
    · split
      · rw [String.toList_append]
        exact endsNumber_cons (by decide) _
      · rw [String.toList_append]
        exact endsNumber_cons (by decide) _

/-- The time of day, with second 60 for a leap second. -/
theorem timeOfDay_append {hour minute second nano : Nat} (hHour : hour ≤ 23) (hMinute : minute ≤ 59)
    (hSecond : second ≤ 60) (hNano : nano < nanosPerSecond) (rest : List Char) :
    timeOfDay ((padded 2 hour).toList ++ ':' :: ((padded 2 minute).toList ++
        ':' :: ((padded 2 second).toList ++ ((fractionText nano).toList ++ 'Z' :: rest)))) =
      some (if second = 60 then ((hour * 60 + minute) * 60 + 59, nanosPerSecond + nano)
        else ((hour * 60 + minute) * 60 + second, nano), 'Z' :: rest) := by
  have hColon : Text.isBlank ':' = false := by decide
  have hColonEnds : ∀ s, EndsNumber (':' :: s) := endsNumber_cons (by decide)
  have hSecondRead := field_padded (Nat.zero_le second) hSecond (by omega)
    (endsNumber_fractionText nano rest)
  -- field by field, each with the separator or the text behind it
  rw [timeOfDay, field_padded (Nat.zero_le hour) hHour (by omega) (hColonEnds _)]
  simp only [Option.bind_eq_bind, Option.bind_some, separator_cons hColon]
  rw [field_padded (Nat.zero_le minute) hMinute (by omega) (hColonEnds _)]
  simp only [Option.bind_some, separator_cons hColon, hSecondRead, fraction_append hNano]
  split <;> rfl

end Timestamp

/-! ## The canonical form -/

namespace Timestamp

/-- So many decimal digits. -/
def IsDigits (width : Nat) (ds : List Char) : Prop :=
  ds.length = width ∧ ∀ c ∈ ds, c.isDigit = true

theorem isDigits_padded {width n : Nat} (hWidth : 0 < width) (h : n < 10 ^ width) :
    IsDigits width (padded width n).toList :=
  ⟨length_padded hWidth h, (isNumeral_padded width n).isDigit⟩

/-- No fraction, or a point and 3, 6 or 9 digits. -/
def IsFraction (fraction : List Char) : Prop :=
  fraction = [] ∨ ∃ width ds, width ∈ [3, 6, 9] ∧ IsDigits width ds ∧ fraction = '.' :: ds

/-- A fraction has 3, 6 or 9 digits, by what divides its nanoseconds. -/
theorem isFraction_fractionText {nano : Nat} (h : nano < nanosPerSecond) :
    IsFraction (fractionText nano).toList := by
  unfold nanosPerSecond at h
  -- the three widths differ in what has to fit
  have hPadded : ∀ {width n : Nat}, width ∈ [3, 6, 9] → n < 10 ^ width →
      IsFraction ("." ++ padded width n).toList := by
    intro width n hWidth hFits
    have hPos : 0 < width := by
      simp only [List.mem_cons, List.not_mem_nil, or_false] at hWidth
      omega
    exact .inr ⟨width, (padded width n).toList, hWidth, isDigits_padded hPos hFits,
      String.toList_append⟩
  unfold fractionText
  split
  · exact .inl rfl
  · split
    · exact hPadded (by decide) (by omega)
    · split
      · exact hPadded (by decide) (by omega)
      · exact hPadded (by decide) (by omega)

/-- The text is a date and a time of day in UTC, with two digits for the hour, the minute
and the second and 0, 3, 6 or 9 for the fraction. -/
def IsCanonical (text : String) : Prop :=
  ∃ (date : Date) (hour minute second fraction : List Char), date.isValid = true ∧
    IsDigits 2 hour ∧ IsDigits 2 minute ∧ IsDigits 2 second ∧ IsFraction fraction ∧
    text.toList = (dateText date).toList ++ 'T' :: (hour ++ ':' :: (minute ++ ':' :: (second ++
      (fraction ++ ['Z']))))

end Timestamp

/-! ## Instants -/

namespace Instant

/-- The seconds since midnight. -/
def secondOfDay (t : Instant) : Nat :=
  (t.second % secondsPerDay).toNat

/-- The second of the minute, 60 for a leap second. -/
def shownSecond (t : Instant) : Nat :=
  t.secondOfDay % 60 + if nanosPerSecond ≤ t.nano then 1 else 0

/-- The nanoseconds of the second, a leap second being one of its own. -/
def shownNano (t : Instant) : Nat :=
  if nanosPerSecond ≤ t.nano then t.nano - nanosPerSecond else t.nano

theorem shownNano_lt (t : Instant) : t.shownNano < nanosPerSecond := by
  have hNano := t.nano_lt
  unfold shownNano
  split <;> omega

theorem secondOfDay_lt (t : Instant) : t.secondOfDay < 86400 := by
  unfold secondOfDay secondsPerDay
  omega

/-- A leap second follows the last second of its minute. -/
theorem secondOfDay_of_leap {t : Instant} (h : nanosPerSecond ≤ t.nano) :
    t.secondOfDay % 60 = 59 := by
  have hLeap := t.leap h
  unfold secondOfDay secondsPerDay
  omega

/-- Second 60 is shown exactly for a leap second. -/
theorem shownSecond_eq_sixty_iff (t : Instant) : t.shownSecond = 60 ↔ nanosPerSecond ≤ t.nano := by
  unfold shownSecond
  split
  · next hLeap =>
    rw [secondOfDay_of_leap hLeap]
    exact iff_of_true rfl hLeap
  · next hNone => exact iff_of_false (by omega) hNone

/-- The seconds and nanoseconds that are read from what is shown. -/
theorem shown_eq (t : Instant) :
    (if t.shownSecond = 60 then
        ((t.secondOfDay / 3600 * 60 + t.secondOfDay / 60 % 60) * 60 + 59,
          nanosPerSecond + t.shownNano)
      else
        ((t.secondOfDay / 3600 * 60 + t.secondOfDay / 60 % 60) * 60 + t.shownSecond,
          t.shownNano)) = (t.secondOfDay, t.nano) := by
  by_cases hLeap : nanosPerSecond ≤ t.nano
  · -- second 60 is read as the last second with its nanoseconds on top
    have hLast := secondOfDay_of_leap hLeap
    rw [if_pos (t.shownSecond_eq_sixty_iff.mpr hLeap), shownNano, if_pos hLeap]
    exact Prod.ext (by omega) (by omega)
  · rw [if_neg fun h => hLeap (t.shownSecond_eq_sixty_iff.mp h), shownNano, shownSecond,
      if_neg hLeap, if_neg hLeap]
    exact Prod.ext (by omega) rfl

/-- The text of an instant, part by part. -/
theorem toList_text (t : Instant) :
    t.text.toList = (Timestamp.dateText t.date).toList ++
      'T' :: ((Timestamp.padded 2 (t.secondOfDay / 3600)).toList ++
        ':' :: ((Timestamp.padded 2 (t.secondOfDay / 60 % 60)).toList ++
          ':' :: ((Timestamp.padded 2 t.shownSecond).toList ++
            ((Timestamp.fractionText t.shownNano).toList ++ ['Z'])))) := by
  simp [text, dateText, secondOfDay, shownSecond, shownNano, String.toList_append]

/-- The date is one that the reader takes. -/
theorem calendarDate_date (t : Instant) {rest : List Char} (hEnd : EndsNumber rest) :
    Timestamp.calendarDate ((Timestamp.dateText t.date).toList ++ rest) = some (t.date, rest) := by
  have hFirst := t.second_ge
  have hLast := t.second_le
  -- an instant lies within the years that the reader takes
  refine Timestamp.calendarDate_append (Date.isValid_ofDays _) (Date.year_ofDays_bounds ?_ ?_) hEnd
  · unfold secondsPerDay
    omega
  · unfold secondsPerDay
    omega

/-- The day and the second of the day make up the second. -/
theorem toDays_date_add (t : Instant) :
    t.date.toDays * secondsPerDay + t.secondOfDay = t.second := by
  -- the date is found from the day and counted back to it
  rw [date, Date.toDays_ofDays, secondOfDay]
  unfold secondsPerDay
  omega

theorem shownSecond_le (t : Instant) : t.shownSecond ≤ 60 := by
  unfold shownSecond
  split <;> omega

/-- An instant is written in the canonical form. -/
theorem isCanonical_text (t : Instant) : Timestamp.IsCanonical t.text := by
  have hDay := t.secondOfDay_lt
  have hSecond := t.shownSecond_le
  exact ⟨t.date, _, _, _, _, Date.isValid_ofDays _,
    Timestamp.isDigits_padded (by decide) (by omega),
    Timestamp.isDigits_padded (by decide) (by omega),
    Timestamp.isDigits_padded (by decide) (by omega),
    Timestamp.isFraction_fractionText t.shownNano_lt, t.toList_text⟩

/-- **An instant is read back from its text.** -/
theorem parse?_text (t : Instant) : parse? t.text = some t := by
  have hDay := t.secondOfDay_lt
  have hHour : t.secondOfDay / 3600 ≤ 23 := by omega
  have hMinute : t.secondOfDay / 60 % 60 ≤ 59 := by omega
  have hTime := Timestamp.timeOfDay_append hHour hMinute t.shownSecond_le t.shownNano_lt []
  rw [t.shown_eq] at hTime
  rw [parse?, toList_text, calendarDate_date t (endsNumber_cons (by decide) _)]
  simp only [Option.bind_eq_bind, Option.bind_some, Timestamp.dateEnd, hTime]
  -- the offset is 0, and nothing follows it
  show (if Text.trimStartChars [] ≠ [] then none
    else ofParts? (t.date.toDays * secondsPerDay + t.secondOfDay - 0) t.nano) = some t
  rw [toDays_date_add, Int.sub_zero, ofParts?_parts]
  rfl

end Instant

end TicketTrail
