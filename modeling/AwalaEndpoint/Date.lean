
namespace AwalaEndpoint

/-!
# Dates

`Date` values of the language and the few `date-fns` functions the codecs use.
A `Date` holds a whole number of milliseconds since the epoch, at most 100
million days away from it, or is invalid.
-/

/-- The largest distance from the epoch a `Date` can hold, in milliseconds. -/
def maxTimeValue : Int := 8640000000000000

/-- A point in time that a `Date` can hold. -/
structure Instant where
  milliseconds : Int
  representable :
    -maxTimeValue ≤ milliseconds ∧ milliseconds ≤ maxTimeValue
  deriving DecidableEq

/-- A `Date`: an instant, or `none` for an invalid date. -/
abbrev Date := Option Instant

/-- The instant of the epoch. -/
def epoch : Instant where
  milliseconds := 0
  representable := by decide

/-- A time value becomes an instant when it is in range and is invalid otherwise. -/
def timeClip (milliseconds : Int) : Date :=
  if representable :
      -maxTimeValue ≤ milliseconds ∧ milliseconds ≤ maxTimeValue then
    some ⟨milliseconds, representable⟩
  else
    none

/-- `isValid` of `date-fns`. -/
def isValid (date : Date) : Bool :=
  date.isSome

/-- A number that is an integer or `NaN`. -/
inductive Number where
  | integer (value : Int)
  | nan
  deriving Repr, DecidableEq

/-- The comparison `number < bound`, which is false of `NaN`. -/
def Number.lessThan (number : Number) (bound : Int) : Bool :=
  match number with
  | .integer value => decide (value < bound)
  | .nan => false

/-- `addMilliseconds` of `date-fns`. -/
def addMilliseconds (date : Date) (amount : Int) : Date :=
  date.bind fun instant => timeClip (instant.milliseconds + amount)

/-- The milliseconds in an hour. -/
def millisecondsInHour : Int := 3600000

/-- `addHours` of `date-fns`. -/
def addHours (date : Date) (amount : Int) : Date :=
  addMilliseconds date (amount * millisecondsInHour)

/-- `subHours` of `date-fns`. -/
def subHours (date : Date) (amount : Int) : Date :=
  addHours date (-amount)

/--
`differenceInSeconds` of `date-fns`: whole seconds, rounded towards zero.  The
difference is exact here.  In the code it is a double, which rounds differences
above 2^53 milliseconds and tells `-0` from `0`, neither of which changes whether
it is below zero.
-/
def differenceInSeconds (dateLeft dateRight : Date) : Number :=
  match dateLeft, dateRight with
  | some left, some right =>
      .integer ((left.milliseconds - right.milliseconds).tdiv 1000)
  | _, _ => .nan

/-- A decimal number filled up with leading zeros. -/
def padded (width number : Nat) : String :=
  let digits := toString number
  String.ofList (List.replicate (width - digits.length) '0') ++ digits

/-- A calendar date of the proleptic Gregorian calendar. -/
structure CalendarDate where
  year : Int
  month : Nat
  day : Nat
  deriving Repr, DecidableEq

/--
The calendar date a number of days after the epoch.  Years are counted from
March within eras of 400 years, so that the leap day ends a year.
-/
def calendarDate (days : Int) : CalendarDate :=
  let shifted := days + 719468
  let era := shifted / 146097
  let dayOfEra := (shifted % 146097).toNat
  let yearOfEra :=
    (dayOfEra - dayOfEra / 1460 + dayOfEra / 36524 - dayOfEra / 146096) / 365
  let dayOfYear :=
    dayOfEra - (365 * yearOfEra + yearOfEra / 4 - yearOfEra / 100)
  let monthFromMarch := (5 * dayOfYear + 2) / 153
  let month :=
    if monthFromMarch < 10 then monthFromMarch + 3 else monthFromMarch - 9
  { year := yearOfEra + era * 400 + (if month ≤ 2 then 1 else 0)
    month := month
    day := dayOfYear - (153 * monthFromMarch + 2) / 5 + 1 }

/-- A year as `toISOString` prints it: four digits, or a sign and six digits. -/
def isoYear (year : Int) : String :=
  if 0 ≤ year ∧ year ≤ 9999 then
    padded 4 year.toNat
  else if 0 ≤ year then
    "+" ++ padded 6 year.toNat
  else
    "-" ++ padded 6 (-year).toNat

/-- `Date.prototype.toISOString` of a valid date. -/
def Instant.toISOString (instant : Instant) : String :=
  let date := calendarDate (instant.milliseconds / 86400000)
  let ofDay := (instant.milliseconds % 86400000).toNat
  isoYear date.year ++ "-" ++ padded 2 date.month ++ "-" ++ padded 2 date.day ++
    "T" ++ padded 2 (ofDay / 3600000) ++
    ":" ++ padded 2 (ofDay / 60000 % 60) ++
    ":" ++ padded 2 (ofDay / 1000 % 60) ++
    "." ++ padded 3 (ofDay % 1000) ++ "Z"

@[simp] theorem timeClip_milliseconds
    (instant : Instant) :
    timeClip instant.milliseconds = some instant := by
  simp [timeClip, instant.representable]

/-- A clipped time value is valid exactly when it is in range, and then kept. -/
theorem timeClip_eq_some_iff
    {milliseconds : Int}
    {instant : Instant} :
    timeClip milliseconds = some instant ↔
      instant.milliseconds = milliseconds := by
  constructor
  · intro clipped
    unfold timeClip at clipped
    split at clipped
    · cases clipped
      rfl
    · cases clipped
  · rintro rfl
    exact timeClip_milliseconds instant

/-- Clipping fails exactly out of range. -/
theorem timeClip_eq_none_iff
    {milliseconds : Int} :
    timeClip milliseconds = none ↔
      milliseconds < -maxTimeValue ∨ maxTimeValue < milliseconds := by
  unfold timeClip
  split
  · simp only [reduceCtorEq, false_iff]
    omega
  · simp only [true_iff]
    omega

/-- Subtracting hours from an instant clips the shifted time value. -/
theorem subHours_some
    (instant : Instant)
    (hours : Int) :
    subHours (some instant) hours =
      timeClip (instant.milliseconds - hours * millisecondsInHour) := by
  have shifted :
      instant.milliseconds + -hours * millisecondsInHour =
        instant.milliseconds - hours * millisecondsInHour := by
    rw [Int.neg_mul, ← Int.sub_eq_add_neg]
  rw [← shifted]
  rfl

@[simp] theorem subHours_none
    (hours : Int) :
    subHours none hours = none :=
  rfl

@[simp] theorem differenceInSeconds_some
    (left right : Instant) :
    differenceInSeconds (some left) (some right) =
      .integer ((left.milliseconds - right.milliseconds).tdiv 1000) :=
  rfl

@[simp] theorem differenceInSeconds_none_right
    (dateLeft : Date) :
    differenceInSeconds dateLeft none = .nan := by
  cases dateLeft <;> rfl

@[simp] theorem lessThan_integer
    (value bound : Int) :
    (Number.integer value).lessThan bound = decide (value < bound) :=
  rfl

@[simp] theorem lessThan_nan
    (bound : Int) :
    Number.nan.lessThan bound = false :=
  rfl

example : epoch.toISOString = "1970-01-01T00:00:00.000Z" := by decide

end AwalaEndpoint
