import Mathlib.Order.Monotone.Basic
import Mathlib.Tactic.IntervalCases
import RowSync.Proofs.Calendar.Parts

/-!
Dates and date-times on one line: the days of the calendar are numbered without a gap, and the
numbers grow as the calendar goes on. Date-times that are no leap seconds come in the order of
their nanoseconds since the start of day zero.
-/

set_option autoImplicit false

namespace RowSync

def yearLength (year : Int) : Nat := if isLeapYear year then 366 else 365

theorem le_monthLength (year : Int) {month : Nat} (lower : 1 ≤ month) (upper : month ≤ 12) :
    28 ≤ monthLength year month := by
  unfold monthLength monthLengths
  cases isLeapYear year <;> interval_cases month <;> decide

namespace Date

theorem daysBeforeYear_succ (year : Int) :
    daysBeforeYear (year + 1) = daysBeforeYear year + yearLength year := by
  unfold daysBeforeYear yearLength isLeapYear
  split <;> simp_all <;> omega

theorem daysBeforeYear_mono {year later : Int} (passed : year ≤ later) :
    daysBeforeYear year ≤ daysBeforeYear later := by
  unfold daysBeforeYear
  omega

theorem daysBeforeMonth_succ (year : Int) (month : Nat) :
    daysBeforeMonth year (month + 1) = daysBeforeMonth year month + monthLength year month := by
  cases month with
  | zero => rfl
  | succ month =>
    change ((monthLengths year).take (month + 1)).sum =
      ((monthLengths year).take month).sum + (monthLengths year).getD month 0
    rw [List.take_add_one, List.sum_append, List.getD_eq_getElem?_getD]
    cases (monthLengths year)[month]? <;> simp

theorem daysBeforeMonth_mono (year : Int) : Monotone (daysBeforeMonth year) :=
  monotone_nat_of_le_succ fun month => by
    rw [daysBeforeMonth_succ]
    exact Nat.le_add_right _ _

theorem daysBeforeMonth_thirteen (year : Int) : daysBeforeMonth year 13 = yearLength year := by
  unfold daysBeforeMonth monthLengths yearLength
  cases isLeapYear year <;> decide

theorem isDate_iff {year : Int} {month day : Nat} : RowSync.isDate year month day = true ↔
    firstYear ≤ year ∧ year ≤ lastYear ∧ 1 ≤ day ∧ day ≤ monthLength year month := by
  simp [RowSync.isDate, and_assoc]

theorem ofParts?_eq_none_iff {year : Int} {month day : Nat} : ofParts? year month day = none ↔
    ¬RowSync.isDate year month day = true := by
  unfold ofParts?
  split <;> simp_all

/-- The number of the first day behind the calendar. -/
def endNumber : Int := daysBeforeYear (lastYear + 1)

/-- The day after has the next number, and only behind the last day there is none. -/
theorem dayNumber_add_one (d : Date) :
    d.dayNumber + 1 = d.tomorrow?.elim endNumber dayNumber := by
  obtain ⟨first, last, day, within⟩ := isDate_iff.mp d.isDate
  obtain ⟨lower, upper, -, -⟩ := bounds_of_isDate d.isDate
  have months := daysBeforeMonth_succ d.year d.month
  -- Without a next day the month is over, and without a next month the year.
  unfold tomorrow?
  cases next : ofParts? d.year d.month (d.day + 1) with
  | some e =>
    obtain ⟨year, month, day⟩ := eq_of_ofParts? next
    simp only [Option.elim_some, dayNumber, year, month, day]
    omega
  | none =>
    rw [ofParts?_eq_none_iff, isDate_iff] at next
    have ended : d.day = monthLength d.year d.month := by omega
    dsimp only
    cases next : ofParts? d.year (d.month + 1) 1 with
    | some e =>
      obtain ⟨year, month, day⟩ := eq_of_ofParts? next
      simp only [Option.elim_some, dayNumber, year, month, day]
      omega
    | none =>
      rw [ofParts?_eq_none_iff, isDate_iff] at next
      have december : d.month = 12 := by
        by_contra earlier
        have long := le_monthLength d.year (show 1 ≤ d.month + 1 by omega) (by omega)
        omega
      rw [december] at months ended
      rw [daysBeforeMonth_thirteen] at months
      have years := daysBeforeYear_succ d.year
      dsimp only
      cases next : ofParts? (d.year + 1) 1 1 with
      | some e =>
        obtain ⟨year, month, day⟩ := eq_of_ofParts? next
        have january : daysBeforeMonth (d.year + 1) 1 = 0 := rfl
        simp only [Option.elim_some, dayNumber, year, month, day, december]
        omega
      | none =>
        rw [ofParts?_eq_none_iff, isDate_iff] at next
        have long := le_monthLength (d.year + 1) (Nat.le_refl 1) (by decide)
        have late : d.year = lastYear := by omega
        simp only [Option.elim_none, endNumber, dayNumber, ← late, december]
        omega

def Before (d e : Date) : Prop :=
  d.year < e.year ∨ d.year = e.year ∧ (d.month < e.month ∨ d.month = e.month ∧ d.day < e.day)

theorem before_trichotomy (d e : Date) : d.Before e ∨ d = e ∨ e.Before d := by
  unfold Before
  by_cases same : d.year = e.year ∧ d.month = e.month ∧ d.day = e.day
  · exact .inr (.inl (eq_of_parts same.1 same.2.1 same.2.2))
  · omega

theorem dayNumber_lt_of_before {d e : Date} (before : d.Before e) :
    d.dayNumber < e.dayNumber := by
  obtain ⟨-, -, day, within⟩ := isDate_iff.mp d.isDate
  obtain ⟨-, -, day', within'⟩ := isDate_iff.mp e.isDate
  obtain ⟨-, upper, -, -⟩ := bounds_of_isDate d.isDate
  have months := daysBeforeMonth_succ d.year d.month
  unfold dayNumber
  rcases before with earlier | ⟨same, earlier | ⟨same', earlier⟩⟩
  · have left := daysBeforeMonth_mono d.year (show d.month + 1 ≤ 13 by omega)
    rw [daysBeforeMonth_thirteen] at left
    have years := daysBeforeYear_succ d.year
    have passed := daysBeforeYear_mono (show d.year + 1 ≤ e.year from earlier)
    omega
  · have passed := daysBeforeMonth_mono d.year (show d.month + 1 ≤ e.month from earlier)
    rw [← same]
    omega
  · rw [← same, ← same']
    omega

theorem dayNumber_lt_endNumber (d : Date) : d.dayNumber < endNumber := by
  obtain ⟨-, last, day, within⟩ := isDate_iff.mp d.isDate
  obtain ⟨-, upper, -, -⟩ := bounds_of_isDate d.isDate
  have months := daysBeforeMonth_succ d.year d.month
  have left := daysBeforeMonth_mono d.year (show d.month + 1 ≤ 13 by omega)
  rw [daysBeforeMonth_thirteen] at left
  have years := daysBeforeYear_succ d.year
  have passed := daysBeforeYear_mono (show d.year + 1 ≤ lastYear + 1 by omega)
  unfold dayNumber endNumber
  omega

end Date

namespace TimeOfDay

/-- A second that is inserted in front of midnight or of a full minute. -/
def IsLeap (t : TimeOfDay) : Prop := nanosPerSecond ≤ t.nano

instance (t : TimeOfDay) : Decidable t.IsLeap := Nat.decLe _ _

theorem not_isLeap {t : TimeOfDay} (whole : t.nano = 0) : ¬t.IsLeap := by
  rw [IsLeap, whole]
  decide

def nanos (t : TimeOfDay) : Nat := t.second * nanosPerSecond + t.nano

theorem nanos_lt {t : TimeOfDay} (plain : ¬t.IsLeap) :
    t.nanos < secondsPerDay * nanosPerSecond := by
  have below := t.second_lt
  unfold IsLeap at plain
  unfold nanos
  unfold secondsPerDay nanosPerSecond at *
  omega

end TimeOfDay

namespace DateTime

/-- Nanoseconds since the start of day zero. -/
def nanos (t : DateTime) : Int := t.date.dayNumber * nanosPerDay + t.time.nanos

def Before (t u : DateTime) : Prop :=
  t.date.Before u.date ∨ t.date = u.date ∧
    (t.time.second < u.time.second ∨ t.time.second = u.time.second ∧ t.time.nano < u.time.nano)

theorem nanos_lt_of_before {t u : DateTime} (plain : ¬t.time.IsLeap) (before : t.Before u) :
    t.nanos < u.nanos := by
  have day := TimeOfDay.nanos_lt plain
  unfold TimeOfDay.IsLeap at plain
  rcases before with earlier | ⟨same, clock⟩
  · have days := Date.dayNumber_lt_of_before earlier
    unfold nanos nanosPerDay
    unfold secondsPerDay nanosPerSecond at day
    omega
  · have clocks : t.time.nanos < u.time.nanos := by
      unfold TimeOfDay.nanos
      unfold nanosPerSecond at *
      omega
    rw [nanos, nanos, same]
    omega

/-- Date-times that are no leap seconds come in the order of their numbers. -/
theorem before_iff {t u : DateTime} (plain : ¬t.time.IsLeap) (plain' : ¬u.time.IsLeap) :
    t.Before u ↔ t.nanos < u.nanos := by
  refine ⟨nanos_lt_of_before plain, fun less => ?_⟩
  by_contra not_before
  have back : u.Before t ∨ t.date = u.date ∧ t.time.second = u.time.second ∧
      t.time.nano = u.time.nano := by
    unfold Before at not_before ⊢
    rcases Date.before_trichotomy t.date u.date with earlier | same | later
    · exact absurd (.inl earlier) not_before
    · simp only [same, true_and] at not_before ⊢
      omega
    · exact .inl (.inl later)
  rcases back with back | ⟨date, second, nano⟩
  · exact absurd (nanos_lt_of_before plain' back) (by omega)
  · have same : t.nanos = u.nanos := by
      rw [nanos, nanos, TimeOfDay.nanos, TimeOfDay.nanos, date, second, nano]
    omega

end DateTime

end RowSync
