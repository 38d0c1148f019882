import RowSync.Calendar.DateTime
import Mathlib.Data.List.Basic

/-!
Dates and times of day and the numbers that they are made of. The numbers of a date lie within the
calendar, and a date or time is the one that its own numbers name.
-/

set_option autoImplicit false

namespace RowSync

theorem monthLength_le (year : Int) (month : Nat) : monthLength year month ≤ 31 := by
  have lengths : ∀ length ∈ monthLengths year, length ≤ 31 := by
    unfold monthLengths
    split <;> decide
  unfold monthLength
  split
  · exact Nat.zero_le _
  · rw [List.getD_eq_getElem?_getD]
    cases found : (monthLengths year)[month - 1]? with
    | none => exact Nat.zero_le _
    | some length => exact lengths length (List.mem_of_getElem? found)

theorem month_of_monthLength {year : Int} {month : Nat} (some_day : 0 < monthLength year month) :
    1 ≤ month ∧ month ≤ 12 := by
  unfold monthLength at some_day
  split at some_day
  · exact absurd some_day (Nat.lt_irrefl 0)
  · rename_i some_month
    rw [beq_iff_eq] at some_month
    refine ⟨Nat.pos_of_ne_zero some_month, ?_⟩
    by_contra later
    have none : (monthLengths year)[month - 1]? = none := by
      apply List.getElem?_eq_none
      show 12 ≤ month - 1
      omega
    rw [List.getD_eq_getElem?_getD, none] at some_day
    exact absurd some_day (Nat.lt_irrefl 0)

theorem bounds_of_isDate {year : Int} {month day : Nat} (named : isDate year month day = true) :
    1 ≤ month ∧ month ≤ 12 ∧ 1 ≤ day ∧ day ≤ 31 := by
  simp only [isDate, Bool.and_eq_true, decide_eq_true_eq] at named
  obtain ⟨⟨-, first⟩, last⟩ := named
  obtain ⟨lower, upper⟩ := month_of_monthLength (Nat.lt_of_lt_of_le first last)
  exact ⟨lower, upper, first, Nat.le_trans last (monthLength_le year month)⟩

namespace Date

theorem eq_of_ofParts? {year : Int} {month day : Nat} {d : Date}
    (found : ofParts? year month day = some d) :
    d.year = year ∧ d.month = month ∧ d.day = day := by
  unfold ofParts? at found
  split at found
  · cases found
    exact ⟨rfl, rfl, rfl⟩
  · cases found

theorem eq_of_parts {d e : Date} (year : d.year = e.year) (month : d.month = e.month)
    (day : d.day = e.day) : d = e := by
  cases d
  cases e
  cases year
  cases month
  cases day
  rfl

theorem ofParts?_self (d : Date) : ofParts? d.year d.month d.day = some d := dif_pos d.isDate

end Date

namespace TimeOfDay

theorem exists_ofParts? {hour minute second nano : Nat} (hour_lt : hour < 24)
    (minute_lt : minute < 60) (second_lt : second < 60) (nano_lt : nano < nanosPerSecond) :
    ∃ t, ofParts? hour minute second nano = some t := by
  have below : hour * 3600 + minute * 60 + second < secondsPerDay := by
    unfold secondsPerDay
    omega
  have whole : isNanoPart (hour * 3600 + minute * 60 + second) nano = true := by
    rw [isNanoPart, Bool.or_eq_true]
    exact .inl (decide_eq_true nano_lt)
  refine ⟨⟨_, nano, below, whole⟩, ?_⟩
  rw [ofParts?, if_pos ⟨hour_lt, minute_lt, second_lt⟩]
  simp only
  rw [dif_pos below, dif_pos whole]

theorem ofParts?_self (t : TimeOfDay) :
    ofParts? t.hour t.minute t.secondOfMinute t.nano = some t := by
  obtain ⟨second, nano, second_lt, nano_ok⟩ := t
  have below : second < 86400 := second_lt
  have total : second / 3600 * 3600 + second / 60 % 60 * 60 + second % 60 = second := by omega
  simp only [ofParts?, hour, minute, secondOfMinute, total]
  rw [if_pos ⟨by omega, by omega, by omega⟩, dif_pos second_lt, dif_pos nano_ok]

end TimeOfDay

end RowSync
