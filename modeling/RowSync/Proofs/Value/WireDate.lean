import RowSync.Mysql.Value
import RowSync.Postgres.Cell
import RowSync.Proofs.Calendar.Parts

/-!
Dates on their way to a MySQL server. Month and day always arrive as they are; the year is cut to
sixteen bits, so that two dates are one on the wire when they are whole spans of 65536 years apart.
-/

set_option autoImplicit false

namespace RowSync

namespace Date

/-- The year is one that the wire has room for. -/
def FitsWire (d : Date) : Prop := 0 ≤ d.year ∧ d.year ≤ 65535

end Date

namespace MysqlDate

/-- The numbers are year, month and day of the date. -/
def Shows (w : MysqlDate) (d : Date) : Prop :=
  (w.year.toNat : Int) = d.year ∧ w.month.toNat = d.month ∧ w.day.toNat = d.day

theorem year_ofDate (d : Date) : ((ofDate d).year.toNat : Int) = d.year % 65536 := by
  show ((UInt16.ofNat (d.year % 65536).toNat).toNat : Int) = _
  rw [UInt16.toNat_ofNat']
  omega

theorem month_ofDate (d : Date) : (ofDate d).month.toNat = d.month := by
  have bounds := bounds_of_isDate d.isDate
  show (UInt8.ofNat d.month).toNat = _
  rw [UInt8.toNat_ofNat']
  omega

theorem day_ofDate (d : Date) : (ofDate d).day.toNat = d.day := by
  have bounds := bounds_of_isDate d.isDate
  show (UInt8.ofNat d.day).toNat = _
  rw [UInt8.toNat_ofNat']
  omega

/-- A date arrives as it is exactly when the wire has room for its year. -/
theorem shows_ofDate_iff (d : Date) : (ofDate d).Shows d ↔ d.FitsWire := by
  have year := year_ofDate d
  constructor
  · rintro ⟨same, -, -⟩
    unfold Date.FitsWire
    omega
  · rintro ⟨lower, upper⟩
    exact ⟨by omega, month_ofDate d, day_ofDate d⟩

end MysqlDate

namespace Value

def date? : Value → Option Date
  | date d => some d
  | dateTime t | instant t => some t.date
  | _ => none

private theorem exists_wire {v : Value} {d : Date} (dated : v.date? = some d) :
    ∃ w, MysqlValue.ofValue v = .date w ∧ w.year = (MysqlDate.ofDate d).year ∧
      w.month = (MysqlDate.ofDate d).month ∧ w.day = (MysqlDate.ofDate d).day := by
  cases v with
  | date e =>
    cases dated
    exact ⟨_, rfl, rfl, rfl, rfl⟩
  | dateTime t =>
    cases dated
    exact ⟨_, rfl, rfl, rfl, rfl⟩
  | instant t =>
    cases dated
    exact ⟨_, rfl, rfl, rfl, rfl⟩
  | _ => cases dated

/-- On the wire a date keeps its month and day, and its year exactly when that fits. Values of one
wire form are whole spans of 65536 years apart, and on the same date when the years of both fit. -/
theorem date_on_wire {v : Value} {d : Date} (dated : v.date? = some d) :
    ∃ w, MysqlValue.ofValue v = .date w ∧ w.month.toNat = d.month ∧ w.day.toNat = d.day ∧
      (w.Shows d ↔ d.FitsWire) ∧
      ∀ v' d', v'.date? = some d' → MysqlValue.ofValue v' = .date w →
        d'.month = d.month ∧ d'.day = d.day ∧ (65536 : Int) ∣ d'.year - d.year ∧
          (d.FitsWire → d'.FitsWire → d' = d) := by
  obtain ⟨w, sent, year, month, day⟩ := exists_wire dated
  have own : w.Shows d ↔ d.FitsWire := by
    rw [MysqlDate.Shows, year, month, day]
    exact MysqlDate.shows_ofDate_iff d
  refine ⟨w, sent, by rw [month, MysqlDate.month_ofDate], by rw [day, MysqlDate.day_ofDate], own,
    ?_⟩
  intro v' d' dated' sent'
  obtain ⟨w', also, year', month', day'⟩ := exists_wire dated'
  cases also.symm.trans sent'
  have sameMonth : d'.month = d.month := by
    rw [← MysqlDate.month_ofDate, ← month', month, MysqlDate.month_ofDate]
  have sameDay : d'.day = d.day := by
    rw [← MysqlDate.day_ofDate, ← day', day, MysqlDate.day_ofDate]
  have sameResidue : d'.year % 65536 = d.year % 65536 := by
    rw [← MysqlDate.year_ofDate, ← year', year, MysqlDate.year_ofDate]
  refine ⟨sameMonth, sameDay, by omega, ?_⟩
  rintro ⟨lower, upper⟩ ⟨lower', upper'⟩
  exact Date.eq_of_parts (by omega) sameMonth sameDay

private def near : Date := ⟨2024, 1, 1, by decide⟩

private def far : Date := ⟨67560, 1, 1, by decide⟩

theorem date_on_wire_of_near :
    (Value.date near).date? = some near ∧
      ∃ w, MysqlValue.ofValue (.date near) = .date w ∧ w.month.toNat = near.month ∧
        w.day.toNat = near.day ∧ (w.Shows near ↔ near.FitsWire) ∧
        ∀ v' d', v'.date? = some d' → MysqlValue.ofValue v' = .date w →
          d'.month = near.month ∧ d'.day = near.day ∧ (65536 : Int) ∣ d'.year - near.year ∧
            (near.FitsWire → d'.FitsWire → d' = near) :=
  ⟨rfl, date_on_wire rfl⟩

/-- PostgreSQL sends both dates as cells, and MySQL is sent the same value for them. -/
theorem far_date_sent_as_near :
    PostgresColumn.decode 0 ⟨"born", .date⟩ (some [1, 109, 96, 82]) = .ok (.date far) ∧
    PostgresColumn.decode 0 ⟨"born", .date⟩ (some [0, 0, 34, 62]) = .ok (.date near) ∧
    far ≠ near ∧
    MysqlValue.ofValue (.date far) = .date ⟨2024, 1, 1, 0, 0, 0, 0⟩ ∧
    MysqlValue.ofValue (.date near) = .date ⟨2024, 1, 1, 0, 0, 0, 0⟩ := by
  decide +kernel

end Value

end RowSync
