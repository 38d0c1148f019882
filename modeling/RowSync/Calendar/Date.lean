import RowSync.Number.Integer

/-!
Dates of the Gregorian calendar, extended to all years, and their numbering by days. Day zero is
the first of January of year zero.
-/

set_option autoImplicit false

namespace RowSync

/-- Every fourth year is a leap year, except the centuries that four hundred does not divide. -/
def isLeapYear (year : Int) : Bool := year % 4 == 0 && (year % 100 != 0 || year % 400 == 0)

/-- The lengths of the months in order. -/
def monthLengths (year : Int) : List Nat :=
  [31, if isLeapYear year then 29 else 28, 31, 30, 31, 30, 31, 31, 30, 31, 30, 31]

/-- The number of days in a month; a month outside the year has none. -/
def monthLength (year : Int) (month : Nat) : Nat :=
  if month == 0 then 0 else (monthLengths year).getD (month - 1) 0

/-- The first year that a date may lie in. -/
def firstYear : Int := -262143

def lastYear : Int := 262142

/-- Year, month and day name a date. -/
def isDate (year : Int) (month day : Nat) : Bool :=
  firstYear ≤ year && year ≤ lastYear && 1 ≤ day && day ≤ monthLength year month

structure Date where
  year : Int
  month : Nat
  day : Nat
  isDate : isDate year month day = true
  deriving DecidableEq

namespace Date

def ofParts? (year : Int) (month day : Nat) : Option Date :=
  if h : RowSync.isDate year month day = true then some ⟨year, month, day, h⟩ else none

def first : Date := ⟨firstYear, 1, 1, by decide⟩

/-- The days from day zero to the first day of the year. -/
def daysBeforeYear (year : Int) : Int :=
  365 * year + (year - 1) / 4 - (year - 1) / 100 + (year - 1) / 400 + 1

/-- The days of the year in front of a month. -/
def daysBeforeMonth (year : Int) (month : Nat) : Nat :=
  ((monthLengths year).take (month - 1)).foldr (· + ·) 0

def dayNumber (d : Date) : Int :=
  daysBeforeYear d.year + daysBeforeMonth d.year d.month + d.day - 1

/-- The year that holds a day: the mean length of a year gives it up to one. -/
def yearOfDay (n : Int) : Int :=
  let guess := 400 * n / 146097
  if daysBeforeYear (guess + 1) ≤ n then guess + 1
  else if n < daysBeforeYear guess then guess - 1
  else guess

/-- Month and day of a day of the year, counted from zero, from the lengths of the months left. -/
def monthAndDay (month : Nat) (n : Nat) : List Nat → Nat × Nat
  | [] => (month, n + 1)
  | length :: rest =>
    if n < length then (month, n + 1) else monthAndDay (month + 1) (n - length) rest

def ofDayNumber? (n : Int) : Option Date :=
  let year := yearOfDay n
  let (month, day) := monthAndDay 1 (n - daysBeforeYear year).toNat (monthLengths year)
  ofParts? year month day

def tomorrow? (d : Date) : Option Date :=
  match ofParts? d.year d.month (d.day + 1) with
  | some next => some next
  | none =>
    match ofParts? d.year (d.month + 1) 1 with
    | some next => some next
    | none => ofParts? (d.year + 1) 1 1

/-- The year as text: four digits from 0 to 9999, else with a sign. -/
def yearText (year : Int) : String :=
  if 0 ≤ year && year ≤ 9999 then padded 4 year.toNat
  else (if year < 0 then "-" else "+") ++ padded 4 year.natAbs

def text (d : Date) : String := yearText d.year ++ "-" ++ padded 2 d.month ++ "-" ++ padded 2 d.day

end Date

end RowSync
