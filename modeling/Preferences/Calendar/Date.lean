/-!
# Dates of the Gregorian calendar

Days are counted from 1970-01-01 and the calendar is extended without end in both directions, so
every integer is a day. `dayNumber` counts the day of a date and `Date.ofDay` reads a day as a date.
Years carry their sign, with a year zero before the year one.

A service can only use the years from `firstYear` to `lastYear`, and the instants in them.
-/

namespace Preferences.Calendar

/-! ### Years and months -/

/-- Every fourth year, without three of every four centuries. -/
def isLeap (year : Int) : Bool :=
  year % 4 == 0 && (year % 100 != 0 || year % 400 == 0)

/-- Days from the start of year zero to the start of `year`. -/
def daysBeforeYear (year : Int) : Int :=
  365 * year + (year + 3) / 4 - (year + 99) / 100 + (year + 399) / 400

/-- Days from the start of a year to the start of its `month`. -/
def daysBeforeMonth (leap : Bool) (month : Nat) : Nat :=
  let february := if leap then 29 else 28
  match month with
  | 0 | 1 => 0
  | 2 => 31
  | 3 => 31 + february
  | 4 => 62 + february
  | 5 => 92 + february
  | 6 => 123 + february
  | 7 => 153 + february
  | 8 => 184 + february
  | 9 => 215 + february
  | 10 => 245 + february
  | 11 => 276 + february
  | 12 => 306 + february
  | _ => 337 + february

def daysInMonth (leap : Bool) (month : Nat) : Nat :=
  daysBeforeMonth leap (month + 1) - daysBeforeMonth leap month

/-- Days from the start of year zero to 1970-01-01. -/
def epochDay : Int := 719528

/-- The day of a date, counted from 1970-01-01. -/
def dayNumber (year : Int) (month day : Nat) : Int :=
  daysBeforeYear year + daysBeforeMonth (isLeap year) month + ((day : Int) - 1) - epochDay

/-! ### Reading a day as a date -/

structure Date where
  year : Int
  month : Nat
  day : Nat
deriving DecidableEq, Repr

/-- The year of a day counted from the start of year zero. A year has 146097 / 400 days on
average, which finds the year up to one. -/
def yearOf (day : Int) : Int :=
  let guess := day * 400 / 146097
  if day < daysBeforeYear guess then guess - 1
  else if daysBeforeYear (guess + 1) ≤ day then guess + 1
  else guess

/-- The month of a day counted from the start of its year. -/
def monthOf (leap : Bool) (day : Nat) : Nat :=
  1 + ((List.range' 2 11).takeWhile fun month => daysBeforeMonth leap month ≤ day).length

def Date.ofDay (day : Int) : Date :=
  let sinceZero := day + epochDay
  let year := yearOf sinceZero
  let inYear := (sinceZero - daysBeforeYear year).toNat
  let month := monthOf (isLeap year) inYear
  ⟨year, month, inYear - daysBeforeMonth (isLeap year) month + 1⟩

/-! ### Bounds -/

def firstYear : Int := -262143

def lastYear : Int := 262142

def firstDay : Int := dayNumber firstYear 1 1

def lastDay : Int := dayNumber lastYear 12 31

def secondsPerDay : Int := 86400

def firstInstant : Int := firstDay * secondsPerDay

def lastInstant : Int := lastDay * secondsPerDay + (secondsPerDay - 1)

/-- Whether a count of seconds falls into the years that can be used. -/
def isCovered (seconds : Int) : Bool := firstInstant ≤ seconds && seconds ≤ lastInstant

/-- The nearest instant in the years that can be used. -/
def clampInstant (seconds : Int) : Int := max firstInstant (min seconds lastInstant)

/-- The day that a count of local seconds falls on. -/
def dayOfSeconds (seconds : Int) : Int := seconds / secondsPerDay

end Preferences.Calendar
