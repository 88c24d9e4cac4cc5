import SqlScript.Decimal.Positional

/-!
# The calendar

Dates are those of the Gregorian calendar, extended to all years.  A date is found
from a day number by taking off whole periods of 400, 100, 4 and 1 years, and then
whole months; `Date.dayNumber` counts the days of a date the other way.  Only the
years from -262143 to 262142 have dates.
-/

namespace SqlScript

structure Date where
  year : Int
  month : Nat
  day : Nat
  deriving DecidableEq, Repr, Inhabited

namespace Date

def isLeapYear (year : Int) : Bool :=
  year % 4 == 0 && (year % 100 != 0 || year % 400 == 0)

/-- The lengths of the months of a common or leap year. -/
def monthLengths (leap : Bool) : List Nat :=
  [31, if leap then 29 else 28, 31, 30, 31, 30, 31, 31, 30, 31, 30, 31]

/-- The month and day of day `n`, from 0, after `month - 1` whole months of a year. -/
def monthDay (month : Nat) : List Nat → Nat → Nat × Nat
  | [], n => (month, n + 1)
  | length :: rest, n =>
    if n < length then (month, n + 1) else monthDay (month + 1) rest (n - length)

/-- The date that is `n` days after the first day of the year 1. -/
def ofDays (n : Int) : Date :=
  let inEra := (n % 146097).toNat
  let centuries := min 3 (inEra / 36524)
  let inCentury := inEra - centuries * 36524
  let cycles := inCentury / 1461
  let inCycle := inCentury - cycles * 1461
  let years := min 3 (inCycle / 365)
  let year := n / 146097 * 400 + centuries * 100 + cycles * 4 + years + 1
  let (month, day) := monthDay 1 (monthLengths (isLeapYear year)) (inCycle - years * 365)
  { year, month, day }

/-- The number of days from the first day of the year 1 to a date. -/
def dayNumber (d : Date) : Int :=
  let before := d.year - 1
  let months := (monthLengths (isLeapYear d.year)).take (d.month - 1)
  let days := months.foldl Nat.add 0
  365 * before + before / 4 - before / 100 + before / 400 + days + (d.day - 1)

/-- From the first day of the year 1 to the first day of 1970. -/
def epoch : Int := 719162

def firstYear : Int := -262143

def lastYear : Int := 262142

/-- The date that is `n` days after the first day of 1970, if its year has dates. -/
def ofEpochDays? (n : Int) : Option Date :=
  let d := ofDays (epoch + n)
  if firstYear ≤ d.year && d.year ≤ lastYear then some d else none

/-- A year with at least four digits, and with a sign if it is negative or has more. -/
def yearText (year : Int) : List Char :=
  if year < 0 then '-' :: Decimal.padded 4 year.natAbs
  else if 9999 < year then '+' :: Decimal.padded 4 year.natAbs
  else Decimal.padded 4 year.natAbs

def text (d : Date) : List Char :=
  yearText d.year ++ '-' :: (Decimal.padded 2 d.month ++ '-' :: Decimal.padded 2 d.day)

example : ofEpochDays? 0 = some ⟨1970, 1, 1⟩ := by decide +kernel
example : ofEpochDays? 19782 = some ⟨2024, 2, 29⟩ := by decide +kernel

end Date

/-- Hours, minutes and seconds of a number of seconds since midnight. -/
def clockText (seconds : Nat) : List Char :=
  Decimal.padded 2 (seconds / 3600) ++
    ':' :: (Decimal.padded 2 (seconds / 60 % 60) ++ ':' :: Decimal.padded 2 (seconds % 60))

end SqlScript
