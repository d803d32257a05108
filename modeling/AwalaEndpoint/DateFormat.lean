import Mathlib.Algebra.Group.Nat.Defs
import AwalaEndpoint.Date

namespace AwalaEndpoint

/-!
# The text of a date

`toISOString` can be read back: a reader of its format returns the very instant
that was printed, for every instant a `Date` holds.  The calendar is inverted
first, year by year of an era, and then the text, number by number.
-/

/-- The number of days of an era before a year, with years counted from March. -/
def yearStart (yearOfEra : Nat) : Nat :=
  365 * yearOfEra + yearOfEra / 4 - yearOfEra / 100 + yearOfEra / 400

/-- The year of an era that a day belongs to, as `calendarDate` computes it. -/
def yearOfDay (dayOfEra : Nat) : Nat :=
  (dayOfEra - dayOfEra / 1460 + dayOfEra / 36524 - dayOfEra / 146096) / 365

/-- Taking off every so many days keeps days in order. -/
theorem sub_div_mono
    {earlier later : Nat}
    (divisor : Nat)
    (ordered : earlier ≤ later) :
    earlier - earlier / divisor ≤ later - later / divisor := by
  induction ordered with
  | refl =>
      exact Nat.le_refl _
  | @step day _ inductionHypothesis =>
      have next :
          day - day / divisor ≤ day + 1 - (day + 1) / divisor := by
        rw [Nat.succ_div]
        split <;> omega
      exact Nat.le_trans inductionHypothesis next

/-- A later day of an era never belongs to an earlier year. -/
theorem yearOfDay_mono
    {earlier later : Nat}
    (ordered : earlier ≤ later) :
    yearOfDay earlier ≤ yearOfDay later := by
  have years := sub_div_mono 1460 ordered
  have centuries :=
    sub_div_mono 4 (@Nat.div_le_div_right _ _ 36524 ordered)
  rw [Nat.div_div_eq_div_mul, Nat.div_div_eq_div_mul] at centuries
  have fewer (day : Nat) : day / 146096 ≤ day / 36524 := by
    omega
  unfold yearOfDay
  apply Nat.div_le_div_right
  rw [Nat.add_sub_assoc (fewer earlier), Nat.add_sub_assoc (fewer later)]
  exact Nat.add_le_add years centuries

/-- The first and the last day of a year belong to it. -/
theorem yearOfDay_ends :
    ∀ yearOfEra, yearOfEra < 400 →
      yearOfDay (yearStart yearOfEra) = yearOfEra ∧
        yearOfDay (yearStart (yearOfEra + 1) - 1) = yearOfEra := by
  decide +kernel

/-- Every day before the start of a year lies in one of the years before it. -/
theorem exists_year
    {dayOfEra : Nat} :
    ∀ years, dayOfEra < yearStart years →
      ∃ yearOfEra, yearOfEra < years ∧
        yearStart yearOfEra ≤ dayOfEra ∧
        dayOfEra < yearStart (yearOfEra + 1) := by
  intro years
  induction years with
  | zero =>
      intro before
      exact absurd before (by simp [yearStart])
  | succ years inductionHypothesis =>
      intro before
      by_cases earlier : dayOfEra < yearStart years
      · obtain ⟨yearOfEra, within, lower, upper⟩ := inductionHypothesis earlier
        exact ⟨yearOfEra, Nat.lt_succ_of_lt within, lower, upper⟩
      · exact ⟨years, Nat.lt_succ_self years, Nat.le_of_not_lt earlier, before⟩

/-- A day of an era is at most a leap year after the start of its year. -/
theorem yearOfDay_spec
    {dayOfEra : Nat}
    (inEra : dayOfEra < 146097) :
    yearOfDay dayOfEra < 400 ∧
      yearStart (yearOfDay dayOfEra) ≤ dayOfEra ∧
      dayOfEra ≤ yearStart (yearOfDay dayOfEra) + 365 := by
  obtain ⟨yearOfEra, within, lower, upper⟩ := exists_year 400 inEra
  obtain ⟨first, last⟩ := yearOfDay_ends yearOfEra within
  have notEarlier := yearOfDay_mono lower
  have notLater := yearOfDay_mono (Nat.le_sub_one_of_lt upper)
  have sameYear : yearOfDay dayOfEra = yearOfEra := by
    omega
  have length : yearStart (yearOfEra + 1) ≤ yearStart yearOfEra + 366 := by
    unfold yearStart
    omega
  rw [sameYear]
  exact ⟨within, lower, by omega⟩

/-- The days between the epoch and a calendar date. -/
def CalendarDate.days (date : CalendarDate) : Int :=
  let year := if date.month ≤ 2 then date.year - 1 else date.year
  let monthFromMarch :=
    if 2 < date.month then date.month - 3 else date.month + 9
  let dayOfYear := (153 * monthFromMarch + 2) / 5 + (date.day - 1)
  year / 400 * 146097 +
    (yearStart (year % 400).toNat + dayOfYear : Nat) - 719468

/-- The date of a day, in terms of the era, the year of the era and the day of the year. -/
theorem calendarDate_eq
    (days : Int) :
    ∃ yearOfEra dayOfYear,
      yearOfEra < 400 ∧
        dayOfYear ≤ 365 ∧
        days + 719468 =
          (days + 719468) / 146097 * 146097 +
            (yearStart yearOfEra + dayOfYear : Nat) ∧
        let monthFromMarch := (5 * dayOfYear + 2) / 153
        let month :=
          if monthFromMarch < 10 then monthFromMarch + 3 else monthFromMarch - 9
        calendarDate days =
          { year :=
              yearOfEra + (days + 719468) / 146097 * 400 +
                (if month ≤ 2 then 1 else 0)
            month := month
            day := dayOfYear - (153 * monthFromMarch + 2) / 5 + 1 } := by
  have inEra : ((days + 719468) % 146097).toNat < 146097 := by
    omega
  obtain ⟨within, lower, upper⟩ := yearOfDay_spec inEra
  have sameStart :
      yearStart (yearOfDay ((days + 719468) % 146097).toNat) =
        365 * yearOfDay ((days + 719468) % 146097).toNat +
            yearOfDay ((days + 719468) % 146097).toNat / 4 -
          yearOfDay ((days + 719468) % 146097).toNat / 100 := by
    unfold yearStart
    omega
  refine ⟨yearOfDay ((days + 719468) % 146097).toNat,
    ((days + 719468) % 146097).toNat -
      yearStart (yearOfDay ((days + 719468) % 146097).toNat),
    within, by omega, by omega, ?_⟩
  rw [sameStart]
  rfl

/-- Counting the days of a calendar date inverts `calendarDate`. -/
theorem days_calendarDate
    (days : Int) :
    (calendarDate days).days = days := by
  obtain ⟨yearOfEra, dayOfYear, within, inYear, sameDays, sameDate⟩ :=
    calendarDate_eq days
  rw [sameDate]
  generalize (days + 719468) / 146097 = era at sameDays
  have inMonth : (153 * ((5 * dayOfYear + 2) / 153) + 2) / 5 ≤ dayOfYear := by
    omega
  have twelveMonths : (5 * dayOfYear + 2) / 153 < 12 := by
    omega
  generalize (5 * dayOfYear + 2) / 153 = monthFromMarch at inMonth twelveMonths
  have sameYear : (yearOfEra + era * 400 : Int) / 400 = era := by
    omega
  have sameYearOfEra : ((yearOfEra + era * 400 : Int) % 400).toNat = yearOfEra := by
    omega
  by_cases beforeJanuary : monthFromMarch < 10
  · have afterFebruary : ¬ monthFromMarch + 3 ≤ 2 := by
      omega
    simp only [CalendarDate.days, beforeJanuary, afterFebruary, ↓reduceIte,
      Int.add_zero, sameYear, sameYearOfEra]
    rw [if_pos (by omega)]
    omega
  · have untilFebruary : monthFromMarch - 9 ≤ 2 := by
      omega
    simp only [CalendarDate.days, beforeJanuary, untilFebruary, ↓reduceIte,
      Int.add_sub_cancel, sameYear, sameYearOfEra]
    rw [if_neg (by omega)]
    omega

/-- Months and days have two digits, and years at most six. -/
theorem calendarDate_digits
    {days : Int}
    (lower : -100000000 ≤ days)
    (upper : days ≤ 100000000) :
    (calendarDate days).month < 10 ^ 2 ∧
      (calendarDate days).day < 10 ^ 2 ∧
      (calendarDate days).year.natAbs < 10 ^ 6 := by
  obtain ⟨yearOfEra, dayOfYear, within, inYear, sameDays, sameDate⟩ :=
    calendarDate_eq days
  rw [sameDate]
  refine ⟨?_, ?_, ?_⟩
  · dsimp only
    split <;> omega
  · dsimp only
    omega
  · dsimp only
    split <;> omega

/-- A year after the start of the calendar begins less than three millennia before the epoch. -/
theorem days_of_year_nonneg
    {days : Int}
    (notNegative : 0 ≤ (calendarDate days).year) :
    -865565 ≤ days := by
  obtain ⟨yearOfEra, dayOfYear, within, -, sameDays, sameDate⟩ :=
    calendarDate_eq days
  rw [sameDate] at notNegative
  dsimp only at notNegative
  split at notNegative <;> omega

/-- The characters of a padded number. -/
theorem toList_padded
    (width number : Nat) :
    (padded width number).toList =
      List.replicate (width - (Nat.toDigits 10 number).length) '0' ++
        Nat.toDigits 10 number := by
  have sameLength :
      number.repr.length = (Nat.toDigits 10 number).length := by
    rw [← String.length_toList, Nat.toList_repr]
  simp [padded, sameLength]

/-- A number that fits fills exactly the given width. -/
theorem length_padded
    {width number : Nat}
    (positive : 0 < width)
    (fits : number < 10 ^ width) :
    (padded width number).toList.length = width := by
  have short :=
    (Nat.length_toDigits_le_iff (by decide : 1 < 10) positive).mpr fits
  rw [toList_padded, List.length_append, List.length_replicate]
  exact Nat.sub_add_cancel short

/-- A padded number is the text up to its width. -/
theorem take_padded
    {width number : Nat}
    (positive : 0 < width)
    (fits : number < 10 ^ width)
    (rest : List Char) :
    ((padded width number).toList ++ rest).take width =
      (padded width number).toList :=
  List.take_left' (length_padded positive fits)

/-- Behind its width a padded number is followed by the rest of the text. -/
theorem drop_padded
    {width number : Nat}
    (positive : 0 < width)
    (fits : number < 10 ^ width)
    (rest : List Char) :
    ((padded width number).toList ++ rest).drop width = rest :=
  List.drop_left' (length_padded positive fits)

/-- The digits of a padded number denote it. -/
theorem ofDigitChars_padded
    (width number : Nat) :
    Nat.ofDigitChars 10 (padded width number).toList 0 = number := by
  simp [toList_padded, Nat.ofDigitChars_append]

/-- A padded number consists of digits. -/
theorem isDigit_of_mem_padded
    {width number : Nat}
    {character : Char}
    (member : character ∈ (padded width number).toList) :
    character.isDigit := by
  rw [toList_padded, List.mem_append] at member
  rcases member with zero | digit
  · rw [List.eq_of_mem_replicate zero]
    decide
  · exact Nat.isDigit_of_mem_toDigits (by decide) (by decide) digit

/--
The numbers of the given widths in a text, each behind one character that
separates it from what comes before.
-/
def readNumbers : List Nat → List Char → List Nat
  | [], _ => []
  | width :: widths, text =>
      Nat.ofDigitChars 10 ((text.drop 1).take width) 0 ::
        readNumbers widths (text.drop (1 + width))

/-- A printed number is read back, and reading goes on behind it. -/
theorem readNumbers_padded
    {width number : Nat}
    (positive : 0 < width)
    (fits : number < 10 ^ width)
    (widths : List Nat)
    (separator : Char)
    (rest : List Char) :
    readNumbers (width :: widths)
        (separator :: ((padded width number).toList ++ rest)) =
      number :: readNumbers widths rest := by
  rw [readNumbers, List.drop_one, List.tail_cons, take_padded positive fits,
    ofDigitChars_padded, Nat.add_comm, List.drop_succ_cons,
    drop_padded positive fits]

/-- The date denoted by a year and the month, day and time behind it. -/
def dateOfFields (year : Int) (rest : List Char) : Date :=
  match readNumbers [2, 2, 2, 2, 2, 3] rest with
  | [month, day, hours, minutes, seconds, milliseconds] =>
      let days := CalendarDate.days ⟨year, month, day⟩
      timeClip (days * 86400000 +
        (hours * 3600000 + minutes * 60000 + seconds * 1000 + milliseconds : Nat))
  | _ => none

/-- The date denoted by a year of four digits, or of a sign and six, and the rest. -/
def dateOfText (text : List Char) : Date :=
  if text.head? = some '+' then
    dateOfFields (Nat.ofDigitChars 10 ((text.drop 1).take 6) 0) (text.drop 7)
  else if text.head? = some '-' then
    dateOfFields (-Nat.ofDigitChars 10 ((text.drop 1).take 6) 0) (text.drop 7)
  else
    dateOfFields (Nat.ofDigitChars 10 (text.take 4) 0) (text.drop 4)

/-- The instant whose `toISOString` is the given text. -/
def ofISOString (text : String) : Date :=
  (dateOfText text.toList).filter fun instant => instant.toISOString = text

/-- The characters behind the year of a printed date. -/
def Instant.restOfISOString (instant : Instant) : List Char :=
  let date := calendarDate (instant.milliseconds / 86400000)
  let ofDay := (instant.milliseconds % 86400000).toNat
  '-' :: ((padded 2 date.month).toList ++
    '-' :: ((padded 2 date.day).toList ++
      'T' :: ((padded 2 (ofDay / 3600000)).toList ++
        ':' :: ((padded 2 (ofDay / 60000 % 60)).toList ++
          ':' :: ((padded 2 (ofDay / 1000 % 60)).toList ++
            '.' :: ((padded 3 (ofDay % 1000)).toList ++ ['Z']))))))

/-- A printed date is its year followed by the rest. -/
theorem toList_toISOString
    (instant : Instant) :
    instant.toISOString.toList =
      (isoYear (calendarDate (instant.milliseconds / 86400000)).year).toList ++
        instant.restOfISOString := by
  simp [Instant.toISOString, Instant.restOfISOString]

/-- What follows the year of a printed date denotes the instant. -/
theorem dateOfFields_rest
    (instant : Instant) :
    dateOfFields (calendarDate (instant.milliseconds / 86400000)).year
        instant.restOfISOString =
      some instant := by
  have representable := instant.representable
  unfold maxTimeValue at representable
  have digits :=
    @calendarDate_digits (instant.milliseconds / 86400000) (by omega) (by omega)
  obtain ⟨month, day, -⟩ := digits
  have ofDay : (instant.milliseconds % 86400000).toNat < 86400000 := by
    omega
  unfold dateOfFields Instant.restOfISOString
  rw [readNumbers_padded (by decide) month, readNumbers_padded (by decide) day,
    readNumbers_padded (by decide) (by omega),
    readNumbers_padded (by decide) (by omega),
    readNumbers_padded (by decide) (by omega),
    readNumbers_padded (by decide) (by omega)]
  dsimp only [readNumbers]
  rw [timeClip_eq_some_iff, days_calendarDate]
  omega

/-- A number in front of a text does not start with a sign. -/
theorem head?_padded_ne
    {width number : Nat}
    {sign : Char}
    (positive : 0 < width)
    (fits : number < 10 ^ width)
    (notDigit : sign.isDigit = false)
    (rest : List Char) :
    ((padded width number).toList ++ rest).head? ≠ some sign := by
  intro sameHead
  have signInNumber : sign ∈ (padded width number).toList := by
    rw [← take_padded positive fits rest]
    apply List.mem_of_mem_head?
    rw [List.head?_take, if_neg (Nat.ne_of_gt positive), sameHead]
    exact rfl
  rw [isDigit_of_mem_padded signInNumber] at notDigit
  cases notDigit

/-- A year is read back from in front of whatever follows it. -/
theorem dateOfText_isoYear
    {year : Int}
    (sixDigits : year.natAbs < 10 ^ 6)
    (rest : List Char) :
    dateOfText ((isoYear year).toList ++ rest) = dateOfFields year rest := by
  unfold isoYear
  by_cases fourDigits : 0 ≤ year ∧ year ≤ 9999
  · have fits : year.toNat < 10 ^ 4 := by
      omega
    have sameYear : ((year.toNat : Nat) : Int) = year :=
      Int.toNat_of_nonneg fourDigits.1
    rw [if_pos fourDigits, dateOfText,
      if_neg (head?_padded_ne (by decide) fits (by decide) rest),
      if_neg (head?_padded_ne (by decide) fits (by decide) rest),
      take_padded (by decide) fits, drop_padded (by decide) fits,
      ofDigitChars_padded, sameYear]
  · rw [if_neg fourDigits]
    by_cases positive : 0 ≤ year
    · have fits : year.toNat < 10 ^ 6 := by
        omega
      have sameYear : ((year.toNat : Nat) : Int) = year :=
        Int.toNat_of_nonneg positive
      rw [if_pos positive, String.toList_append]
      simp [dateOfText, take_padded (by decide) fits,
        drop_padded (by decide) fits, ofDigitChars_padded, sameYear]
    · have fits : (-year).toNat < 10 ^ 6 := by
        omega
      have sameYear : -(((-year).toNat : Nat) : Int) = year := by
        omega
      rw [if_neg positive, String.toList_append]
      generalize (-year).toNat = yearsBefore at fits sameYear
      simp [dateOfText, take_padded (by decide) fits,
        drop_padded (by decide) fits, ofDigitChars_padded, sameYear]

/-- The text that `toISOString` prints denotes the instant it was printed from. -/
theorem ofISOString_toISOString
    (instant : Instant) :
    ofISOString instant.toISOString = some instant := by
  have representable := instant.representable
  unfold maxTimeValue at representable
  have digits :=
    @calendarDate_digits (instant.milliseconds / 86400000) (by omega) (by omega)
  unfold ofISOString
  rw [toList_toISOString, dateOfText_isoYear digits.2.2, dateOfFields_rest]
  simp

example : ofISOString "-271821-04-20T00:00:00.000Z" = timeClip (-maxTimeValue) := by
  decide +kernel

end AwalaEndpoint
