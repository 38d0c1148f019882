import RowSync.Proofs.Number.Digits
import RowSync.Proofs.Value.IdentityTrip
import RowSync.Proofs.Value.WireDate

/-!
A value sent to a MySQL server is read back from a column of its kind. Integers come back with the
greatest width, identifiers as their text and instants as the date-time of their UTC time; all other
values come back as they are, as long as the wire has room for their year and part of a second.
-/

set_option autoImplicit false

namespace RowSync

/-- The wire has room for the part of a second, and the second is no leap second. -/
def TimeOfDay.FitsWire (t : TimeOfDay) : Prop := t.nano < nanosPerSecond ∧ t.nano % 1000 = 0

/-- The column is of the kind of the value, and the wire has room for it. -/
def MysqlColumn.Carries (c : MysqlColumn) : Value → Prop
  | .null => True
  | .int16 _ | .int32 _ | .int64 _ => c.type = .longLong ∧ c.unsigned = false
  | .decimal d => c.type = .newDecimal ∧ d.WellFormed
  | .text _ | .uuid _ => c.type = .varString ∧ c.charset ≠ binaryCharset
  | .bytes _ => c.type = .blob ∧ c.charset = binaryCharset
  | .date d => c.type = .date ∧ d.FitsWire
  | .dateTime t | .instant t => c.type = .dateTime ∧ t.date.FitsWire ∧ t.time.FitsWire
  | .time t => c.type = .time ∧ t.FitsWire
  | .bool _ | .float32 _ | .float64 _ => False

/-- The value that MySQL has for a value. -/
def Value.inMysql : Value → Value
  | int16 n => int64 (Int64.ofInt n.toInt)
  | int32 n => int64 (Int64.ofInt n.toInt)
  | decimal d => decimal (Decimal.ofParts d.negative d.coefficient d.scale)
  | uuid u => text u.text
  | instant t => dateTime t
  | v => v

theorem TimeOfDay.wire_parts {t : TimeOfDay} (fits : t.FitsWire) :
    (UInt8.ofNat t.hour).toNat = t.hour ∧ (UInt8.ofNat t.minute).toNat = t.minute ∧
      (UInt8.ofNat t.secondOfMinute).toNat = t.secondOfMinute ∧
      (UInt32.ofNat (t.nano / 1000)).toNat * 1000 = t.nano := by
  have below : t.second < 86400 := t.second_lt
  obtain ⟨part, whole⟩ := fits
  unfold nanosPerSecond at part
  simp only [UInt8.toNat_ofNat', UInt32.toNat_ofNat', hour, minute, secondOfMinute]
  omega

namespace MysqlDate

theorem toDate?_ofDate {d : Date} (fits : d.FitsWire) : (ofDate d).toDate? = some d := by
  obtain ⟨year, month, day⟩ := (shows_ofDate_iff d).mpr fits
  rw [toDate?, year, month, day, Date.ofParts?_self]

theorem toDateTime?_ofDateTime {t : DateTime} (date : t.date.FitsWire) (time : t.time.FitsWire) :
    (ofDateTime t).toDateTime? = some t := by
  have day : (ofDateTime t).toDate? = some t.date := toDate?_ofDate date
  obtain ⟨hour, minute, second, micro⟩ := TimeOfDay.wire_parts time
  have clock : TimeOfDay.ofParts? (ofDateTime t).hour.toNat (ofDateTime t).minute.toNat
      (ofDateTime t).second.toNat ((ofDateTime t).micro.toNat * 1000) = some t.time := by
    simp only [ofDateTime]
    rw [hour, minute, second, micro, TimeOfDay.ofParts?_self]
  rw [toDateTime?, day, clock]
  rfl

end MysqlDate

namespace MysqlTime

theorem toTimeOfDay?_ofTimeOfDay {t : TimeOfDay} (fits : t.FitsWire) :
    (ofTimeOfDay t).toTimeOfDay? = some t := by
  obtain ⟨hour, minute, second, micro⟩ := TimeOfDay.wire_parts fits
  simp only [toTimeOfDay?, ofTimeOfDay]
  rw [hour, minute, second, micro, TimeOfDay.ofParts?_self]

end MysqlTime

namespace MysqlColumn

theorem decodeDecimal_text {d : Decimal} (formed : d.WellFormed) :
    decodeDecimal (.ofText d.text) =
      .ok (.decimal (Decimal.ofParts d.negative d.coefficient d.scale)) := by
  rw [decodeDecimal, toText_bind, readText, DecimalText.trim_text, DecimalText.read_text formed]
  rfl

theorem toValue_ofTimeOfDay {t : TimeOfDay} (fits : t.FitsWire) :
    (MysqlTime.ofTimeOfDay t).toValue = .time t := by
  have days : ((MysqlTime.ofTimeOfDay t).days != 0) = false := rfl
  have sign : (MysqlTime.ofTimeOfDay t).negative = false := rfl
  rw [MysqlTime.toValue, sign, days, MysqlTime.toTimeOfDay?_ofTimeOfDay fits]
  rfl

/-- A value comes back from a column of its kind. -/
theorem decode_ofValue {c : MysqlColumn} {v : Value} (carried : c.Carries v) :
    c.decode (.ofValue v) = .ok v.inMysql := by
  obtain ⟨type, charset, unsigned⟩ := c
  cases v with
  | null => rfl
  | int16 n =>
    obtain ⟨rfl, rfl⟩ := carried
    rw [Value.inMysql, Int64.ofInt_int16ToInt]
    rfl
  | int32 n =>
    obtain ⟨rfl, rfl⟩ := carried
    rw [Value.inMysql, Int64.ofInt_int32ToInt]
    rfl
  | int64 n =>
    obtain ⟨rfl, rfl⟩ := carried
    rfl
  | decimal d =>
    obtain ⟨rfl, formed⟩ := carried
    exact decodeDecimal_text formed
  | text s =>
    obtain ⟨rfl, characters⟩ := carried
    have held : HoldsText ⟨.varString, charset, unsigned⟩ := ⟨rfl, characters⟩
    exact decode_text held
  | uuid u =>
    obtain ⟨rfl, characters⟩ := carried
    have held : HoldsText ⟨.varString, charset, unsigned⟩ := ⟨rfl, characters⟩
    exact decode_text held
  | bytes b =>
    obtain ⟨rfl, plain⟩ := carried
    have held : HoldsBytes ⟨.blob, charset, unsigned⟩ := ⟨rfl, plain⟩
    exact decode_bytes held
  | date d =>
    obtain ⟨rfl, fits⟩ := carried
    have typed : ∀ w, decode ⟨.date, charset, unsigned⟩ (.date w) =
        .ok (w.toDate?.elim Value.null Value.date) := fun _ => rfl
    rw [MysqlValue.ofValue, typed, MysqlDate.toDate?_ofDate fits]
    rfl
  | dateTime t | instant t =>
    obtain ⟨rfl, date, time⟩ := carried
    have typed : ∀ w, decode ⟨.dateTime, charset, unsigned⟩ (.date w) =
        .ok (w.toDateTime?.elim Value.null Value.dateTime) := fun _ => rfl
    rw [MysqlValue.ofValue, typed, MysqlDate.toDateTime?_ofDateTime date time]
    rfl
  | time t =>
    obtain ⟨rfl, fits⟩ := carried
    exact congrArg Except.ok (toValue_ofTimeOfDay fits)
  | bool | float32 | float64 => cases carried

private def lastInstant : DateTime :=
  ⟨⟨65535, 12, 31, by decide⟩, ⟨86399, 999999000, by decide, by decide⟩⟩

theorem decode_ofValue_of_last_instant :
    Carries ⟨.dateTime, binaryCharset, false⟩ (.instant lastInstant) ∧
      decode ⟨.dateTime, binaryCharset, false⟩ (.ofValue (.instant lastInstant)) =
        .ok (.dateTime lastInstant) := by
  have carried : Carries ⟨.dateTime, binaryCharset, false⟩ (.instant lastInstant) :=
    ⟨rfl, ⟨by decide, by decide⟩, by decide, by decide⟩
  exact ⟨carried, decode_ofValue carried⟩

end MysqlColumn

end RowSync
