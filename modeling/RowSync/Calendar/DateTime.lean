import RowSync.Calendar.Date
import RowSync.Calendar.TimeOfDay

/-!
Date-times without a zone, their distance from a fixed day, and their resolution to the second.
-/

set_option autoImplicit false

namespace RowSync

/-- A date with a time of day. -/
structure DateTime where
  date : Date
  time : TimeOfDay
  deriving DecidableEq

namespace DateTime

/-- The date-time with that separator between its parts. -/
def text (separator : String) (t : DateTime) : String := t.date.text ++ separator ++ t.time.text

def truncate (t : DateTime) : DateTime := ⟨t.date, t.time.truncate⟩

/-- The start of the next second; behind the last second of the calendar there is none. -/
def nextSecond? (t : DateTime) : Option DateTime :=
  match t.time.nextSecond? with
  | some time => some ⟨t.date, time⟩
  | none => t.date.tomorrow?.map fun date => ⟨date, .midnight⟩

/-- The nearest whole second, a half going up, unless that leads out of the calendar. -/
def roundToSecond? (t : DateTime) : Option DateTime :=
  if nanosPerSecond ≤ 2 * t.time.subsecond then t.nextSecond? else some t.truncate

/-- The nearest whole second. Where rounding leads out of the calendar the program ends with a
panic; panics are left out here, and the time is cut instead. -/
def roundToSecond (t : DateTime) : DateTime := t.roundToSecond?.getD t.truncate

/-- The number of the day from which microseconds are counted: the first of January 2000. -/
def epochDay : Int := 730485

/-- Microseconds since the epoch, toward zero; a leap second counts on into the next minute. -/
def epochMicros (t : DateTime) : Int :=
  let seconds := (t.date.dayNumber - epochDay) * secondsPerDay + t.time.second
  (seconds * nanosPerSecond + t.time.nano).tdiv 1000

/-- The point in time from which microseconds are counted. -/
def epoch : DateTime := ⟨⟨2000, 1, 1, by decide⟩, .midnight⟩

def nanosPerDay : Int := 86400000000000

/-- The time of day that many nanoseconds after midnight, days left out. -/
def timeOfNanos (nanos : Int) : TimeOfDay :=
  let rest := (nanos % nanosPerDay).toNat
  ⟨rest / 1000000000, rest % 1000000000,
    by simp only [rest, nanosPerDay, secondsPerDay]; omega,
    by
      have small : rest % 1000000000 < 1000000000 := by omega
      simp [isNanoPart, nanosPerSecond, small]⟩

def timeOfMicros (micros : Int) : TimeOfDay := timeOfNanos (micros * 1000)

/-- The date-time that many nanoseconds after the epoch. -/
def ofEpochNanos? (nanos : Int) : Option DateTime :=
  (Date.ofDayNumber? (epochDay + nanos / nanosPerDay)).map fun date => ⟨date, timeOfNanos nanos⟩

def ofEpochMicros? (micros : Int) : Option DateTime := ofEpochNanos? (micros * 1000)

/-- The date-time that many seconds earlier, its part of a second kept. -/
def minusSeconds? (t : DateTime) (seconds : Int) : Option DateTime :=
  let total := (t.time.second : Int) - seconds
  let second := (total % secondsPerDay).toNat
  match Date.ofDayNumber? (t.date.dayNumber + total / secondsPerDay) with
  | none => none
  | some date =>
    if h : second < secondsPerDay then
      if h' : isNanoPart second t.time.nano = true then some ⟨date, ⟨second, t.time.nano, h, h'⟩⟩
      else none
    else none

end DateTime

end RowSync
