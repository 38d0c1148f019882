import RowSync.Number.Integer

/-!
Times of day to the nanosecond. A leap second is the second 59 with a nanosecond part of one
second or more.
-/

set_option autoImplicit false

namespace RowSync

def nanosPerSecond : Nat := 1000000000

/-- Seconds of a day without leap seconds. -/
def secondsPerDay : Nat := 86400

/-- A nanosecond part fits a second of the day. -/
def isNanoPart (second nano : Nat) : Bool :=
  nano < nanosPerSecond || (nano < 2 * nanosPerSecond && second % 60 == 59)

structure TimeOfDay where
  /-- Whole seconds since midnight. -/
  second : Nat
  nano : Nat
  second_lt : second < secondsPerDay
  nano_ok : isNanoPart second nano = true
  deriving DecidableEq

namespace TimeOfDay

def midnight : TimeOfDay := ⟨0, 0, by decide, by decide⟩

def ofParts? (hour minute second nano : Nat) : Option TimeOfDay :=
  if hour < 24 ∧ minute < 60 ∧ second < 60 then
    let total := hour * 3600 + minute * 60 + second
    if h : total < secondsPerDay then
      if h' : isNanoPart total nano = true then some ⟨total, nano, h, h'⟩ else none
    else none
  else none

def hour (t : TimeOfDay) : Nat := t.second / 3600

def minute (t : TimeOfDay) : Nat := t.second / 60 % 60

/-- The second of the minute, without a leap second. -/
def secondOfMinute (t : TimeOfDay) : Nat := t.second % 60

/-- The part of a second that is cut off by a resolution of one second. -/
def subsecond (t : TimeOfDay) : Nat := t.nano % nanosPerSecond

/-- The time without its part of a second; a leap second stays one. -/
def truncate (t : TimeOfDay) : TimeOfDay :=
  ⟨t.second, t.nano / nanosPerSecond * nanosPerSecond, t.second_lt, by
    have h := t.nano_ok
    unfold isNanoPart nanosPerSecond at *
    simp only [Bool.or_eq_true, Bool.and_eq_true, decide_eq_true_eq, beq_iff_eq] at h ⊢
    omega⟩

/-- The next whole second, or nothing when that is midnight. -/
def nextSecond? (t : TimeOfDay) : Option TimeOfDay :=
  if h : t.second + 1 < secondsPerDay then
    some ⟨t.second + 1, 0, h, by simp [isNanoPart, nanosPerSecond]⟩
  else none

/-- The part of a second as text: the fewest of 0, 3, 6 or 9 places that are exact. -/
def fractionText (nano : Nat) : String :=
  if nano == 0 then ""
  else if nano % 1000000 == 0 then "." ++ padded 3 (nano / 1000000)
  else if nano % 1000 == 0 then "." ++ padded 6 (nano / 1000)
  else "." ++ padded 9 nano

/-- The time as text; a leap second counts as second 60. -/
def text (t : TimeOfDay) : String :=
  padded 2 t.hour ++ ":" ++ padded 2 t.minute ++ ":" ++
    padded 2 (t.secondOfMinute + t.nano / nanosPerSecond) ++ fractionText t.subsecond

end TimeOfDay

end RowSync
