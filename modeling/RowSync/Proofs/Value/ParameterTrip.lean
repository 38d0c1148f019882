import RowSync.Postgres.Cell
import RowSync.Postgres.Parameter
import RowSync.Proofs.Calendar.DayNumber
import RowSync.Proofs.Number.Numeric
import RowSync.Proofs.Text.Utf8
import RowSync.Proofs.Value.IdentityTrip
import RowSync.Proofs.Value.StoredForm

/-!
A value decoded from a PostgreSQL cell goes back to a column of the same type as a parameter that
decodes to it. Most types have one form for each value, and the parameter is the cell itself; a
truth value, a time of day, a text and a decimal may come back in another form.
-/

set_option autoImplicit false

namespace RowSync

/-- The types whose values are encoded without loss: neither floating point nor a document. -/
def PostgresType.isLossless : PostgresType → Bool
  | bool | int2 | int4 | int8 | numeric | uuid | bytea | timestamp | timestamptz | date | time
  | text | varchar | bpchar | name => true
  | float4 | float8 | json | jsonb | other _ => false

namespace BigEndian

theorem ofInt_of_readInt? {width : Nat} {b : Bytes} {n : Int} (read : readInt? width b = some n) :
    b.length = width ∧ n = toInt b ∧ ofInt width n = b := by
  unfold readInt? at read
  split at read
  · rename_i size
    cases read
    rw [beq_iff_eq] at size
    subst size
    exact ⟨rfl, rfl, ofInt_toInt b⟩
  · cases read

end BigEndian

namespace PostgresParameter

open PostgresColumn (decodeBytes?)

/-- The value is encoded as a parameter of the type, and that decodes to the value again, or to an
equal decimal. -/
def Restored (type : PostgresType) (v : Value) : Prop :=
  ∃ sent w, encode type v = .ok (some sent) ∧ decodeBytes? type sent = some w ∧
    w.nullSafeEq v = true ∧ (type ≠ .numeric → w = v)

variable {type : PostgresType} {v : Value} {b : Bytes}

private theorem restored_of_same (sent : Bytes) (encoded : encode type v = .ok (some sent))
    (decoded : decodeBytes? type sent = some v) (number : v.isNaN = false) : Restored type v :=
  ⟨sent, v, encoded, decoded, Value.nullSafeEq_self number, fun _ => rfl⟩

theorem ofInteger_of_readInt? {width : Nat} {n : Int} (some_byte : 0 < width)
    (read : BigEndian.readInt? width b = some n) : ofInteger width n = .ok b := by
  obtain ⟨size, value, -⟩ := BigEndian.ofInt_of_readInt? read
  subst size value
  exact ofInteger_toInt some_byte

theorem range_of_readInt? {width : Nat} {n : Int} (some_byte : 0 < width)
    (read : BigEndian.readInt? width b = some n) :
    -(Nat.pow 2 (8 * width - 1) : Nat) ≤ n ∧ n < (Nat.pow 2 (8 * width - 1) : Nat) := by
  obtain ⟨size, value, -⟩ := BigEndian.ofInt_of_readInt? read
  subst size value
  exact BigEndian.toInt_range some_byte

private theorem restored_integer {width : Nat} {m n : Int} (some_byte : 0 < width)
    (read : BigEndian.readInt? width b = some n) (decoded : decodeBytes? type b = some v)
    (number : v.isNaN = false) (encoded : encode type v = some <$> ofInteger width m)
    (kept : m = n) : Restored type v := by
  apply restored_of_same b _ decoded number
  rw [encoded, kept, ofInteger_of_readInt? some_byte read]
  rfl

private theorem restored_bool (decoded : decodeBytes? .bool b = some v) : Restored .bool v := by
  obtain ⟨truth, -, rfl⟩ := Option.map_eq_some_iff.mp decoded
  cases truth with
  | true => exact restored_of_same [1] rfl rfl rfl
  | false => exact restored_of_same [0] rfl rfl rfl

private theorem restored_numeric (decoded : decodeBytes? .numeric b = some v) :
    Restored .numeric v := by
  obtain ⟨d, read, rfl⟩ := Option.map_eq_some_iff.mp decoded
  obtain ⟨n, -, value⟩ := Option.bind_eq_some_iff.mp read
  have formed := PostgresNumeric.wellFormed_of_toDecimal? value
  -- Other groups may be sent than came, so the decimals are equal but need not be the same.
  obtain ⟨e, back, equal⟩ := PostgresNumeric.toDecimal?_ofDecimal formed
  refine ⟨ofDecimal d, .decimal e, rfl, ?_, equal, fun other => absurd rfl other⟩
  rw [decodeBytes?, ofDecimal, PostgresNumeric.ofBytes?_ofDecimal formed, Option.bind_some, back]
  rfl

private theorem restored_uuid (decoded : decodeBytes? .uuid b = some v) : Restored .uuid v := by
  obtain ⟨u, -, rfl⟩ := Option.map_eq_some_iff.mp decoded
  refine restored_of_same u.bytes rfl ?_ rfl
  rw [decodeBytes?, Uuid.ofBytes?, dif_pos u.length_eq]
  rfl

private theorem ofDateTime_of_readDateTime? {t : DateTime}
    (read : PostgresColumn.readDateTime? b = some t) : ofDateTime t = b := by
  obtain ⟨micros, spelled, found⟩ := Option.bind_eq_some_iff.mp read
  rw [ofDateTime, DateTime.epochMicros_of_ofEpochMicros? found]
  exact (BigEndian.ofInt_of_readInt? spelled).2.2

private theorem restored_timestamp (decoded : decodeBytes? .timestamp b = some v) :
    Restored .timestamp v := by
  obtain ⟨t, read, rfl⟩ := Option.map_eq_some_iff.mp decoded
  refine restored_of_same b ?_ decoded rfl
  rw [encode, ofDateTime_of_readDateTime? read]

private theorem restored_timestamptz (decoded : decodeBytes? .timestamptz b = some v) :
    Restored .timestamptz v := by
  obtain ⟨t, read, rfl⟩ := Option.map_eq_some_iff.mp decoded
  refine restored_of_same b ?_ decoded rfl
  rw [encode, ofDateTime_of_readDateTime? read]

private theorem restored_date (decoded : decodeBytes? .date b = some v) : Restored .date v := by
  obtain ⟨d, read, rfl⟩ := Option.map_eq_some_iff.mp decoded
  obtain ⟨days, spelled, found⟩ := Option.bind_eq_some_iff.mp read
  have distance : DateTime.epochDay + days - DateTime.epochDay = days := by omega
  refine restored_of_same b ?_ decoded rfl
  rw [encode, ofDate, Date.dayNumber_of_ofDayNumber? found, distance,
    (BigEndian.ofInt_of_readInt? spelled).2.2]

private theorem restored_time (decoded : decodeBytes? .time b = some v) : Restored .time v := by
  obtain ⟨t, read, rfl⟩ := Option.map_eq_some_iff.mp decoded
  obtain ⟨micros, -, rfl⟩ := Option.map_eq_some_iff.mp read
  -- The cell may count more than a day; what is sent counts from midnight.
  have own := DateTime.micros_timeOfMicros micros
  have whole : Nat.pow 256 8 = 18446744073709551616 := by decide
  have back : BigEndian.readInt? 8 (ofTime (DateTime.timeOfMicros micros)) =
      some (micros % 86400000000) := by
    rw [ofTime, ← TimeOfDay.micros, BigEndian.readInt?_ofInt (by omega) (by omega), own]
  refine restored_of_same (ofTime (DateTime.timeOfMicros micros)) rfl ?_ rfl
  rw [decodeBytes?, PostgresColumn.readTime?, back, Option.map_some, DateTime.timeOfMicros_emod]
  rfl

private theorem restored_characters (characters : type.isCharacters = true)
    (decoded : decodeBytes? type b = some v) : Restored type v := by
  have read : (PostgresColumn.readText? b).map Value.text = some v := by
    cases type <;> simp only [PostgresType.isCharacters, Bool.false_eq_true] at characters <;>
      exact decoded
  obtain ⟨s, -, rfl⟩ := Option.map_eq_some_iff.mp read
  have back : PostgresColumn.readText? (Utf8.encode s) = some s := by
    rw [PostgresColumn.readText?, Utf8.decode_encode]
    rfl
  refine restored_of_same (Utf8.encode s) ?_ ?_ rfl
  · cases type <;> simp only [PostgresType.isCharacters, Bool.false_eq_true] at characters <;> rfl
  · cases type <;> simp only [PostgresType.isCharacters, Bool.false_eq_true] at characters <;>
      rw [decodeBytes?, back] <;> rfl

/-- Whatever bytes a value is decoded from, it is restored by a parameter of their type. -/
theorem restored_of_decodeBytes? (lossless : type.isLossless = true)
    (decoded : decodeBytes? type b = some v) : Restored type v := by
  cases type with
  | bool => exact restored_bool decoded
  | int2 =>
    obtain ⟨n, read, rfl⟩ := Option.map_eq_some_iff.mp decoded
    obtain ⟨lower, upper⟩ := range_of_readInt? (by decide) read
    exact restored_integer (by decide) read decoded rfl rfl
      (Int16.toInt_ofInt_of_le lower upper)
  | int4 =>
    obtain ⟨n, read, rfl⟩ := Option.map_eq_some_iff.mp decoded
    obtain ⟨lower, upper⟩ := range_of_readInt? (by decide) read
    exact restored_integer (by decide) read decoded rfl rfl
      (Int32.toInt_ofInt_of_le lower upper)
  | int8 =>
    obtain ⟨n, read, rfl⟩ := Option.map_eq_some_iff.mp decoded
    obtain ⟨lower, upper⟩ := range_of_readInt? (by decide) read
    exact restored_integer (by decide) read decoded rfl rfl
      (Int64.toInt_ofInt_of_le lower upper)
  | numeric => exact restored_numeric decoded
  | uuid => exact restored_uuid decoded
  | bytea =>
    cases decoded
    exact restored_of_same b rfl rfl rfl
  | timestamp => exact restored_timestamp decoded
  | timestamptz => exact restored_timestamptz decoded
  | date => exact restored_date decoded
  | time => exact restored_time decoded
  | text | varchar | bpchar | name => exact restored_characters rfl decoded
  | float4 | float8 | json | jsonb | other => cases lossless

private theorem decode_some {c : PostgresColumn} (index : Nat) (b : Bytes)
    (lossless : c.type.isLossless = true) :
    c.decode index (some b) =
      match decodeBytes? c.type b with
      | some v => .ok v
      | none => .error (.postgres (.cell index)) := by
  obtain ⟨name, type⟩ := c
  cases type with
  | other => cases lossless
  | _ => rfl

/-- Every value that a cell of a lossless type decodes to is accepted as a parameter of that type,
and what is sent decodes to the value again, NULL to NULL and a decimal to an equal one. -/
theorem encode_inverts_decode {index : Nat} {c : PostgresColumn} {cell : Option Bytes}
    (lossless : c.type.isLossless = true) (decoded : c.decode index cell = .ok v) :
    ∃ sent w, encode c.type v = .ok sent ∧ (sent = none ↔ v = .null) ∧
      c.decode index sent = .ok w ∧ w.nullSafeEq v = true ∧ (c.type ≠ .numeric → w = v) := by
  cases cell with
  | none =>
    have null : v = .null := by
      obtain ⟨name, type⟩ := c
      cases type with
      | other => cases lossless
      | _ =>
        cases decoded
        rfl
    subst null
    exact ⟨none, .null, rfl, by simp, decoded, rfl, fun _ => rfl⟩
  | some b =>
    have read : decodeBytes? c.type b = some v := by
      rw [decode_some index b lossless] at decoded
      split at decoded
      · rename_i read
        cases decoded
        exact read
      · cases decoded
    obtain ⟨sent, w, encoded, back, equal, same⟩ := restored_of_decodeBytes? lossless read
    have value : v ≠ .null := by
      rintro rfl
      cases encoded
    refine ⟨some sent, w, encoded, by simp [value], ?_, equal, same⟩
    rw [decode_some index sent lossless, back]

private def priceCell : Bytes := [0, 3, 0, 1, 0, 0, 0, 2, 0, 1, 9, 41, 26, 44]

theorem encode_inverts_decode_of_price :
    PostgresType.numeric.isLossless = true ∧
      PostgresColumn.decode 0 ⟨"price", .numeric⟩ (some priceCell) =
        .ok (.decimal ⟨false, 1234567, 2⟩) ∧
      ∃ sent w, encode .numeric (.decimal ⟨false, 1234567, 2⟩) = .ok sent ∧
        (sent = none ↔ Value.decimal ⟨false, 1234567, 2⟩ = .null) ∧
        PostgresColumn.decode 0 ⟨"price", .numeric⟩ sent = .ok w ∧
        w.nullSafeEq (.decimal ⟨false, 1234567, 2⟩) = true ∧
        (PostgresType.numeric ≠ .numeric → w = .decimal ⟨false, 1234567, 2⟩) := by
  have decoded : PostgresColumn.decode 0 ⟨"price", .numeric⟩ (some priceCell) =
      .ok (.decimal ⟨false, 1234567, 2⟩) := by decide +kernel
  exact ⟨rfl, decoded, encode_inverts_decode rfl decoded⟩

end PostgresParameter

end RowSync
