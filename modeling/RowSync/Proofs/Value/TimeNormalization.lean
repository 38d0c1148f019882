import RowSync.Database.Dialect
import RowSync.Proofs.Calendar.Timeline
import RowSync.Proofs.Value.MysqlTrip
import RowSync.Proofs.Value.Protocols
import RowSync.Proofs.Value.StoredForm

/-!
Times as MySQL stores them. The second begun or the nearest one, a half going up, is counted on the
line of all date-times, so that it carries through midnight and the end of a year; a time of day
goes back to midnight instead. A stored time is sent, read back and compared as it is.
-/

set_option autoImplicit false

namespace RowSync

/-- The whole seconds that are kept of so many nanoseconds: the nearest, a half going up, or those
that are complete. -/
def keptSeconds (roundTime : Bool) (nanos : Int) : Int :=
  if roundTime then (nanos + 500000000) / 1000000000 else nanos / 1000000000

theorem keptSeconds_mono (roundTime : Bool) {nanos later : Int} (passed : nanos ≤ later) :
    keptSeconds roundTime nanos ≤ keptSeconds roundTime later := by
  unfold keptSeconds
  split <;> omega

theorem keptSeconds_days_add (roundTime : Bool) (days nanos : Int) :
    keptSeconds roundTime (days * DateTime.nanosPerDay + nanos) =
      days * secondsPerDay + keptSeconds roundTime nanos := by
  unfold keptSeconds DateTime.nanosPerDay secondsPerDay
  split <;> omega

namespace DateTime

variable {t : DateTime}

/-- Rounding the date-time does not lead out of the calendar. -/
def RoundsWithin (t : DateTime) : Prop := t.nanos + 500000000 < Date.endNumber * nanosPerDay

instance (t : DateTime) : Decidable t.RoundsWithin := Int.decLt _ _

/-- The date-time is a whole second, that many seconds after the start of day zero. -/
def IsSecond (t : DateTime) (seconds : Int) : Prop :=
  t.time.nano = 0 ∧ t.nanos = seconds * 1000000000

theorem isSecond_of_whole (whole : t.time.nano = 0) :
    t.IsSecond (t.date.dayNumber * 86400 + t.time.second) := by
  refine ⟨whole, ?_⟩
  unfold nanos TimeOfDay.nanos nanosPerDay nanosPerSecond
  omega

theorem nanos_parts (plain : ¬t.time.IsLeap) :
    t.nanos / 1000000000 = t.date.dayNumber * 86400 + t.time.second ∧
      t.nanos % 1000000000 = t.time.nano := by
  have part : t.time.nano < 1000000000 := Nat.lt_of_not_le plain
  unfold nanos TimeOfDay.nanos nanosPerDay nanosPerSecond
  omega

theorem isSecond_truncate (plain : ¬t.time.IsLeap) :
    t.truncate.IsSecond (t.nanos / 1000000000) := by
  have cut : t.truncate.time.nano = 0 := by
    show t.time.nano / nanosPerSecond * nanosPerSecond = 0
    rw [Nat.div_eq_of_lt (Nat.lt_of_not_le plain), Nat.zero_mul]
  rw [(nanos_parts plain).1]
  exact isSecond_of_whole cut

/-- The next second begins at the next whole number, on the next day if need be; behind the last
one the calendar ends. -/
theorem nanos_nextSecond? (plain : ¬t.time.IsLeap) :
    t.nextSecond?.elim (Date.endNumber * nanosPerDay) nanos =
      (t.nanos / 1000000000 + 1) * 1000000000 := by
  have below : t.time.second < 86400 := t.time.second_lt
  have day := t.date.dayNumber_add_one
  rw [(nanos_parts plain).1]
  unfold nextSecond? TimeOfDay.nextSecond?
  by_cases later : t.time.second + 1 < secondsPerDay
  · rw [dif_pos later]
    simp only [Option.elim_some, nanos, TimeOfDay.nanos, nanosPerDay, nanosPerSecond]
    omega
  · rw [dif_neg later]
    unfold secondsPerDay at later
    cases next : t.date.tomorrow? with
    | some date =>
      rw [next, Option.elim_some] at day
      simp only [Option.map_some, Option.elim_some, nanos, TimeOfDay.nanos, TimeOfDay.midnight,
        nanosPerDay, nanosPerSecond]
      omega
    | none =>
      rw [next, Option.elim_none] at day
      simp only [Option.map_none, Option.elim_none, nanosPerDay]
      omega

theorem nanos_lt_end (plain : ¬t.time.IsLeap) : t.nanos < Date.endNumber * nanosPerDay := by
  have day := t.date.dayNumber_lt_endNumber
  have clock := TimeOfDay.nanos_lt plain
  unfold nanos nanosPerDay
  unfold secondsPerDay nanosPerSecond at clock
  omega

theorem roundToSecond?_eq (plain : ¬t.time.IsLeap) :
    t.roundToSecond? =
      if 500000000 ≤ t.nanos % 1000000000 then t.nextSecond? else some t.truncate := by
  have part : t.time.subsecond = t.time.nano := Nat.mod_eq_of_lt (Nat.lt_of_not_le plain)
  rw [roundToSecond?, part, (nanos_parts plain).2]
  refine if_congr ?_ rfl rfl
  unfold nanosPerSecond
  omega

/-- Only in the last half second of the calendar there is no second to round to. -/
theorem roundToSecond?_isSome_iff (plain : ¬t.time.IsLeap) :
    t.roundToSecond?.isSome = true ↔ t.RoundsWithin := by
  have inside := nanos_lt_end plain
  have following := nanos_nextSecond? plain
  -- Only whole seconds lie in front of the end, so that a second behind this one is in front of it
  -- or the end itself.
  rw [roundToSecond?_eq plain, RoundsWithin]
  unfold nanosPerDay at *
  split
  · cases next : t.nextSecond? with
    | some u =>
      have inside' := nanos_lt_end (TimeOfDay.not_isLeap (nano_of_nextSecond? next))
      unfold nanosPerDay at inside'
      rw [next, Option.elim_some] at following
      simp only [Option.isSome_some, true_iff]
      omega
    | none =>
      rw [next, Option.elim_none] at following
      simp only [Option.isSome_none, Bool.false_eq_true, false_iff]
      omega
  · simp only [Option.isSome_some, true_iff]
    omega

theorem isSecond_roundToSecond (plain : ¬t.time.IsLeap) (within : t.RoundsWithin) :
    t.roundToSecond.IsSecond ((t.nanos + 500000000) / 1000000000) := by
  have following := nanos_nextSecond? plain
  obtain ⟨r, rounded⟩ := Option.isSome_iff_exists.mp ((roundToSecond?_isSome_iff plain).mpr within)
  rw [roundToSecond, rounded, Option.getD_some]
  rw [roundToSecond?_eq plain] at rounded
  split at rounded
  · rw [rounded, Option.elim_some] at following
    exact ⟨nano_of_nextSecond? rounded, by omega⟩
  · cases rounded
    have down : (t.nanos + 500000000) / 1000000000 = t.nanos / 1000000000 := by omega
    rw [down]
    exact isSecond_truncate plain

end DateTime

namespace Dialect

variable {roundTime : Bool} {t u : DateTime}

/-- What MySQL stores of a date-time is the second that is kept. -/
theorem isSecond_mysql (plain : ¬t.time.IsLeap) (within : roundTime = true → t.RoundsWithin) :
    ((mysql roundTime).normalize t).IsSecond (keptSeconds roundTime t.nanos) := by
  cases roundTime with
  | true => exact DateTime.isSecond_roundToSecond plain (within rfl)
  | false => exact DateTime.isSecond_truncate plain

theorem not_before_mysql (plain : ¬t.time.IsLeap) (within : roundTime = true → t.RoundsWithin)
    (plain' : ¬u.time.IsLeap) (within' : roundTime = true → u.RoundsWithin)
    (order : ¬u.Before t) :
    ¬((mysql roundTime).normalize u).Before ((mysql roundTime).normalize t) := by
  obtain ⟨whole, number⟩ := isSecond_mysql plain within
  obtain ⟨whole', number'⟩ := isSecond_mysql plain' within'
  rw [DateTime.before_iff plain' plain] at order
  rw [DateTime.before_iff (TimeOfDay.not_isLeap whole') (TimeOfDay.not_isLeap whole), number,
    number']
  have kept := keptSeconds_mono roundTime (Int.not_lt.mp order)
  omega

/-- The first day is followed by another, so that rounding a time of day finds one. -/
theorem roundsWithin_first {clock : TimeOfDay} (plain : ¬clock.IsLeap) :
    DateTime.RoundsWithin ⟨.first, clock⟩ := by
  have below := TimeOfDay.nanos_lt plain
  have first : Date.first.dayNumber + 2 ≤ Date.endNumber := by decide
  unfold DateTime.RoundsWithin DateTime.nanos DateTime.nanosPerDay
  unfold secondsPerDay nanosPerSecond at below
  dsimp only
  omega

theorem time_mysql (roundTime : Bool) {clock : TimeOfDay} (plain : ¬clock.IsLeap) :
    ((mysql roundTime).normalize ⟨.first, clock⟩).time.nano = 0 ∧
      (((mysql roundTime).normalize ⟨.first, clock⟩).time.second : Int) =
        keptSeconds roundTime clock.nanos % secondsPerDay := by
  obtain ⟨whole, number⟩ :=
    isSecond_mysql (t := ⟨.first, clock⟩) plain fun _ => roundsWithin_first plain
  have below := ((mysql roundTime).normalize ⟨.first, clock⟩).time.second_lt
  refine ⟨whole, ?_⟩
  rw [DateTime.nanos, DateTime.nanos, keptSeconds_days_add, TimeOfDay.nanos, whole] at number
  unfold DateTime.nanosPerDay nanosPerSecond at number
  unfold secondsPerDay at number below ⊢
  dsimp only at number
  omega

end Dialect

theorem TimeOfDay.fitsWire_of_whole {t : TimeOfDay} (whole : t.nano = 0) : t.FitsWire := by
  rw [FitsWire, whole]
  decide

namespace MysqlColumn

variable {c : MysqlColumn}

theorem decode_dateTime {t : DateTime} (kind : c.type.kind = .dateTime)
    (date : t.date.FitsWire) (time : t.time.FitsWire) :
    c.decode (.ofValue (.dateTime t)) = .ok (.dateTime t) := by
  have sent : MysqlValue.ofValue (.dateTime t) = .date (.ofDateTime t) := rfl
  rw [sent, decode_of_kind (by nofun), kind]
  simp only [decodeDateTime, MysqlDate.toDateTime?_ofDateTime date time]
  rfl

theorem decode_time {t : TimeOfDay} (kind : c.type.kind = .span) (fits : t.FitsWire) :
    c.decode (.ofValue (.time t)) = .ok (.time t) := by
  have sent : MysqlValue.ofValue (.time t) = .time (.ofTimeOfDay t) := rfl
  rw [sent, decode_of_kind (by nofun), kind]
  exact congrArg Except.ok (toValue_ofTimeOfDay fits)

/-- The column is one of times of the kind of the value, and the wire has room for the year. -/
def HoldsTime (c : MysqlColumn) : Value → Prop
  | .dateTime t | .instant t => c.type.kind = .dateTime ∧ t.date.FitsWire
  | .time _ => c.type.kind = .span
  | _ => False

end MysqlColumn

/-- A date-time, instant or time of day that is no leap second and that rounding leaves in the
calendar. -/
def Value.IsPlainTime (roundTime : Bool) : Value → Prop
  | dateTime t | instant t => ¬t.time.IsLeap ∧ (roundTime = true → t.RoundsWithin)
  | time t => ¬t.IsLeap
  | _ => False

namespace Dialect

/-- The dialect keeps whole seconds of times, the nearest or those that are complete. -/
structure KeepsSeconds (d : Dialect) (roundTime : Bool) : Prop where
  /-- The second of a date-time is also the one of the instant of that UTC date-time. -/
  dateTime : ∀ t : DateTime, (Value.dateTime t).IsPlainTime roundTime → ∃ r : DateTime,
    Value.mapTime d.normalize (.dateTime t) = .dateTime r ∧
      Value.mapTime d.normalize (.instant t) = .instant r ∧
      r.IsSecond (keptSeconds roundTime t.nanos) ∧
      if roundTime then t.nanos - 500000000 < r.nanos ∧ r.nanos ≤ t.nanos + 500000000
      else r.nanos ≤ t.nanos ∧ t.nanos < r.nanos + 1000000000
  monotone : ∀ t u r s : DateTime, (Value.dateTime t).IsPlainTime roundTime →
    (Value.dateTime u).IsPlainTime roundTime →
    Value.mapTime d.normalize (.dateTime t) = .dateTime r →
    Value.mapTime d.normalize (.dateTime u) = .dateTime s → ¬u.Before t → ¬s.Before r
  /-- A time of day is rounded alike, and past the end of the day goes back to its start. -/
  time : ∀ t : TimeOfDay, (Value.time t).IsPlainTime roundTime → ∃ r : TimeOfDay,
    Value.mapTime d.normalize (.time t) = .time r ∧ r.nano = 0 ∧
      (r.second : Int) = keptSeconds roundTime t.nanos % secondsPerDay
  idempotent : ∀ v : Value,
    (v.mapTime d.normalize).mapTime d.normalize = v.mapTime d.normalize
  other : ∀ v : Value, (∀ t, v ≠ .dateTime t) → (∀ t, v ≠ .instant t) → (∀ t, v ≠ .time t) →
    v.mapTime d.normalize = v
  /-- What is read back is sent as what was stored. -/
  readBack : ∀ (v : Value) (c : MysqlColumn), v.IsPlainTime roundTime →
    c.HoldsTime (v.mapTime d.normalize) →
    c.decode (.ofValue (v.mapTime d.normalize)) = .ok (v.mapTime d.normalize).inMysql ∧
      MysqlValue.ofValue ((v.mapTime d.normalize).inMysql.mapTime d.normalize) =
        .ofValue (v.mapTime d.normalize)

variable {roundTime : Bool}

theorem idempotent_mysql (roundTime : Bool) (v : Value) :
    (v.mapTime (mysql roundTime).normalize).mapTime (mysql roundTime).normalize =
      v.mapTime (mysql roundTime).normalize :=
  Value.mapTime_mapTime _ v

theorem readBack_mysql {v : Value} {c : MysqlColumn} (plain : v.IsPlainTime roundTime)
    (held : c.HoldsTime (v.mapTime (mysql roundTime).normalize)) :
    c.decode (.ofValue (v.mapTime (mysql roundTime).normalize)) =
        .ok (v.mapTime (mysql roundTime).normalize).inMysql ∧
      MysqlValue.ofValue
          ((v.mapTime (mysql roundTime).normalize).inMysql.mapTime (mysql roundTime).normalize) =
        .ofValue (v.mapTime (mysql roundTime).normalize) := by
  cases v with
  | dateTime t | instant t =>
    obtain ⟨whole, -⟩ := isSecond_mysql plain.1 plain.2
    obtain ⟨kind, date⟩ := held
    have again : MysqlValue.ofValue (Value.mapTime _ (.dateTime _)) = .ofValue (.dateTime _) :=
      congrArg MysqlValue.ofValue (idempotent_mysql roundTime (.dateTime t))
    exact ⟨MysqlColumn.decode_dateTime kind date (TimeOfDay.fitsWire_of_whole whole), again⟩
  | time t =>
    obtain ⟨whole, -⟩ := time_mysql roundTime plain
    exact ⟨MysqlColumn.decode_time held (TimeOfDay.fitsWire_of_whole whole),
      congrArg MysqlValue.ofValue (idempotent_mysql roundTime (.time t))⟩
  | _ => cases plain

/-- MySQL keeps the nearest second if it is told to round times, and else the second begun. -/
theorem mysql_keepsSeconds (roundTime : Bool) : (mysql roundTime).KeepsSeconds roundTime where
  dateTime t plain := by
    have kept := isSecond_mysql plain.1 plain.2
    refine ⟨_, rfl, rfl, kept, ?_⟩
    rw [kept.2, keptSeconds]
    split <;> omega
  monotone := by
    rintro t u r s ⟨plain, within⟩ ⟨plain', within'⟩ ⟨⟩ ⟨⟩ order
    exact not_before_mysql plain within plain' within' order
  time t plain := ⟨_, rfl, time_mysql roundTime plain⟩
  idempotent := idempotent_mysql roundTime
  other v dateTime instant time := by
    cases v with
    | dateTime t => exact absurd rfl (dateTime t)
    | instant t => exact absurd rfl (instant t)
    | time t => exact absurd rfl (time t)
    | _ => rfl
  readBack _ _ := readBack_mysql

private def newYearsEve : DateTime :=
  ⟨⟨1969, 12, 31, by decide⟩, ⟨secondsPerDay - 1, 500000000, by decide, by decide⟩⟩

/-- The nearest second is the first one of that year. -/
theorem mysql_keepsSeconds_of_new_years_eve :
    (Value.dateTime newYearsEve).IsPlainTime true ∧
      Value.mapTime (mysql true).normalize (.dateTime newYearsEve) =
        .dateTime ⟨⟨1970, 1, 1, by decide⟩, .midnight⟩ ∧
      ((mysql true).normalize newYearsEve).IsSecond (keptSeconds true newYearsEve.nanos) := by
  have plain : (Value.dateTime newYearsEve).IsPlainTime true := ⟨by decide, fun _ => by decide⟩
  obtain ⟨r, stored, -, second, -⟩ := (mysql_keepsSeconds true).dateTime newYearsEve plain
  cases stored
  exact ⟨plain, by decide, second⟩

end Dialect

end RowSync
