import RowSync.Mysql.Cell
import RowSync.Postgres.Cell
import RowSync.Postgres.Parameter
import RowSync.Sync.Plan
import RowSync.Proofs.Number.Digits
import RowSync.Proofs.Text.Utf8
import RowSync.Proofs.Value.Uuid

/-!
An identity read from PostgreSQL, stored in MySQL through the place that an INSERT has for it, and
read back in the text protocol, is the same parameter for PostgreSQL as it was a cell. What MySQL
does between the two is not known here beyond what it documents.
-/

set_option autoImplicit false

namespace RowSync

namespace PostgresType

def declaredName : PostgresType → String
  | int2 => "smallint"
  | int4 => "integer"
  | int8 => "bigint"
  | varchar => "character varying"
  | uuid => "uuid"
  | _ => "text"

/-- The bytes are a cell of the type, which is one of identities. -/
def IsIdentity : PostgresType → Bytes → Prop
  | int2, cell => cell.length = 2
  | int4, cell => cell.length = 4
  | int8, cell => cell.length = 8
  | uuid, cell => cell.length = 16
  | text, cell | varchar, cell => ∃ s, cell = Utf8.encode s
  | _, _ => False

end PostgresType

namespace MysqlColumn

/-- The number of bits of an integer type. -/
def integerBits? : MysqlType → Option Nat
  | .tiny => some 8
  | .short => some 16
  | .int24 => some 24
  | .long => some 32
  | .longLong => some 64
  | _ => none

/-- The types of characters and, in the character set of plain bytes, of bytes. -/
def isString : MysqlType → Bool
  | .varChar | .varString | .string | .tinyBlob | .mediumBlob | .longBlob | .blob => true
  | _ => false

def HoldsInteger (c : MysqlColumn) (n : Int) : Prop :=
  ∃ bits, integerBits? c.type = some bits ∧
    if c.unsigned then 0 ≤ n ∧ n < (Nat.pow 2 bits : Nat)
    else -(Nat.pow 2 (bits - 1) : Nat) ≤ n ∧ n < (Nat.pow 2 (bits - 1) : Nat)

def HoldsText (c : MysqlColumn) : Prop := isString c.type = true ∧ c.charset ≠ binaryCharset

def HoldsBytes (c : MysqlColumn) : Prop := isString c.type = true ∧ c.charset = binaryCharset

/-- The column goes with a type of identities; an integer has to lie in its range. -/
def Matches (c : MysqlColumn) : PostgresType → Bytes → Prop
  | .int2, cell | .int4, cell | .int8, cell => c.HoldsInteger (BigEndian.toInt cell)
  | .uuid, _ => c.HoldsBytes
  | .text, _ | .varchar, _ => c.HoldsText
  | _, _ => False

end MysqlColumn

/-- What the text protocol shows of a parameter stored at a marker in a column. -/
abbrev MysqlStorage := (marker : String) → MysqlColumn → MysqlValue → Bytes

namespace MysqlStorage

/-- Integers and texts are stored exactly, and the hexadecimal digits of a text become the bytes
that they spell. -/
structure Exact (storage : MysqlStorage) : Prop where
  integer : ∀ (c : MysqlColumn) (n : Int64), c.HoldsInteger n.toInt →
    storage "?" c (.int n) = Utf8.encode (toString n.toInt)
  text : ∀ (c : MysqlColumn) (s : String), c.HoldsText →
    storage "?" c (.ofText s) = Utf8.encode s
  unhex : ∀ (c : MysqlColumn) (s : String) (b : Bytes), c.HoldsBytes → b.length = 16 →
    Hex.decode? (s.toList.filter (· != '-')) = some b →
    storage Dialect.unhexMarker c (.ofText s) = b

/-- An identity decoded from a cell of the source, stored at a marker of an INSERT, read back in
the text protocol and encoded as a parameter of the type it had. -/
def trip (storage : MysqlStorage) (roundTime : Bool) (marker : String) (index : Nat)
    (source : PostgresColumn) (target : MysqlColumn) (cell : Bytes) :
    Outcome (Except ParameterFault (Option Bytes)) := do
  let id ← source.decode index (some cell)
  let sent := MysqlValue.ofValue (id.mapTime (Dialect.mysql roundTime).normalize)
  let stored ← target.decode (.bytes (storage marker target sent))
  pure (PostgresParameter.encode source.type stored)

end MysqlStorage

namespace TablePlan

theorem valueMarkers_getElem? (db : Dialect) (columns : List Column) :
    ∀ (first : Nat) {index : Nat} {c : Column}, columns[index]? = some c →
      (valueMarkers db first columns)[index]? =
        some (if c.isUuid then db.uuidMarker (first + index) else db.marker (first + index)) := by
  induction columns with
  | nil =>
    intro first index c found
    cases found
  | cons d columns ih =>
    intro first index c found
    cases index with
    | zero =>
      cases found
      rfl
    | succ index =>
      have later := ih (first + 1) found
      rw [Nat.add_right_comm] at later
      exact later

end TablePlan

namespace MysqlColumn

variable {c : MysqlColumn}

private theorem decode_of_integerBits {bits : Nat} (width : integerBits? c.type = some bits)
    (b : Bytes) : c.decode (.bytes b) = decodeInteger c.unsigned (.bytes b) := by
  obtain ⟨type, charset, unsigned⟩ := c
  cases type <;> simp only [integerBits?, reduceCtorEq] at width <;> rfl

private theorem decode_of_isString (string : isString c.type = true) (b : Bytes) :
    c.decode (.bytes b) = decodeString c.charset (.bytes b) := by
  obtain ⟨type, charset, unsigned⟩ := c
  cases type <;> simp only [isString, Bool.false_eq_true] at string <;> rfl

theorem toText_encode (s : String) : (MysqlValue.bytes (Utf8.encode s)).toText = .ok s := by
  rw [MysqlValue.toText, Utf8.decode_encode]

theorem toText_bind {α : Type} (s : String) (f : String → Outcome α) :
    ((MysqlValue.ofText s).toText >>= f) = f s := by
  rw [MysqlValue.ofText, toText_encode]
  rfl

theorem decodeInteger_signed {n : Int} (lower : -(Nat.pow 2 63 : Nat) ≤ n)
    (upper : n < (Nat.pow 2 63 : Nat)) :
    decodeInteger false (.ofText (toString n)) = .ok (.int64 (Int64.ofInt n)) := by
  show ((MysqlValue.ofText (toString n)).toText >>= _) = _
  rw [toText_bind, if_neg Bool.false_ne_true, readText, Integer.trim_toString,
    Integer.readSigned_toString lower upper]
  rfl

theorem decodeInteger_unsigned (width : Nat) {n : Nat} (upper : n < Nat.pow 2 64) :
    decodeInteger true (.ofText (padded width n)) = .ok (ofUnsigned n) := by
  show ((MysqlValue.ofText (padded width n)).toText >>= _) = _
  rw [toText_bind, if_pos rfl, readText, Integer.trim_padded,
    Integer.readUnsigned_padded width upper]
  rfl

theorem ofUnsigned_of_lt {n : Nat} (small : n < Nat.pow 2 63) :
    ofUnsigned n = .int64 (Int64.ofNat n) := if_pos small

theorem decode_integer {n : Int} (held : c.HoldsInteger n) (lower : -(Nat.pow 2 63 : Nat) ≤ n)
    (upper : n < (Nat.pow 2 63 : Nat)) :
    c.decode (.bytes (Utf8.encode (toString n))) = .ok (.int64 (Int64.ofInt n)) := by
  obtain ⟨bits, width, range⟩ := held
  rw [decode_of_integerBits width]
  cases sign : c.unsigned with
  | false => exact decodeInteger_signed lower upper
  | true =>
    rw [sign, if_pos rfl] at range
    obtain ⟨m, rfl⟩ := Int.eq_ofNat_of_zero_le range.1
    have small : m < Nat.pow 2 63 := Int.ofNat_lt.mp upper
    have read := decodeInteger_unsigned 0 (Nat.lt_trans small (by decide))
    rw [padded_zero, ofUnsigned_of_lt small] at read
    exact read

theorem decode_text {s : String} (held : c.HoldsText) :
    c.decode (.bytes (Utf8.encode s)) = .ok (.text s) := by
  have charset : (c.charset == binaryCharset) = false := by simpa using held.2
  rw [decode_of_isString held.1, decodeString, charset, decodeText, toText_encode]
  rfl

theorem decode_bytes {b : Bytes} (held : c.HoldsBytes) : c.decode (.bytes b) = .ok (.bytes b) := by
  have charset : (c.charset == binaryCharset) = true := by simpa using held.2
  rw [decode_of_isString held.1, decodeString, charset]
  rfl

end MysqlColumn

namespace PostgresParameter

theorem ofInteger_toInt {cell : Bytes} (some_byte : 0 < cell.length) :
    ofInteger cell.length (BigEndian.toInt cell) = .ok cell := by
  rw [ofInteger, Integer.narrow_toInt some_byte]
  exact congrArg Except.ok (BigEndian.ofInt_toInt cell)

end PostgresParameter

namespace MysqlStorage

variable {storage : MysqlStorage} {roundTime : Bool} {marker : String} {index : Nat}
  {source : PostgresColumn} {target : MysqlColumn} {cell : Bytes}

private theorem trip_of {id stored : Value} (decoded : source.decode index (some cell) = .ok id)
    (timeless : id.mapTime (Dialect.mysql roundTime).normalize = id)
    (shown : target.decode (.bytes (storage marker target (.ofValue id))) = .ok stored)
    (encoded : PostgresParameter.encode source.type stored = .ok (some cell)) :
    storage.trip roundTime marker index source target cell = .ok (.ok (some cell)) := by
  have bind_ok : ∀ {α β : Type} (a : α) (f : α → Outcome β), (Except.ok a >>= f) = f a :=
    fun _ _ => rfl
  rw [trip, decoded, bind_ok]
  simp only [timeless, shown, bind_ok, encoded]
  rfl

private theorem trip_integer {id : Value} {n : Int64} {width : Nat} (exact : storage.Exact)
    (size : cell.length = width) (some_byte : 0 < width)
    (decoded : source.decode index (some cell) = .ok id)
    (timeless : id.mapTime (Dialect.mysql roundTime).normalize = id)
    (sent : MysqlValue.ofValue id = .int n) (number : n.toInt = BigEndian.toInt cell)
    (encoded : PostgresParameter.encode source.type (.int64 n) =
      some <$> PostgresParameter.ofInteger width n.toInt)
    (held : target.HoldsInteger (BigEndian.toInt cell)) :
    storage.trip roundTime "?" index source target cell = .ok (.ok (some cell)) := by
  subst size
  have stored : storage "?" target (.ofValue id) = Utf8.encode (toString n.toInt) := by
    rw [sent]
    exact exact.integer target n (number ▸ held)
  have shown : target.decode (.bytes (storage "?" target (.ofValue id))) = .ok (.int64 n) := by
    rw [stored, MysqlColumn.decode_integer (number ▸ held) n.le_toInt n.toInt_lt,
      Int64.ofInt_toInt]
  apply trip_of decoded timeless shown
  rw [encoded, number, PostgresParameter.ofInteger_toInt some_byte]
  rfl

private theorem trip_uuid (exact : storage.Exact) (type : source.type = .uuid)
    (size : cell.length = 16) (held : target.HoldsBytes) :
    storage.trip roundTime Dialect.unhexMarker index source target cell =
      .ok (.ok (some cell)) := by
  have whole : Uuid.ofBytes? cell = some ⟨cell, size⟩ := dif_pos size
  have decoded : source.decode index (some cell) = .ok (.uuid ⟨cell, size⟩) := by
    simp only [PostgresColumn.decode, type, PostgresColumn.decodeBytes?, whole, Option.map_some]
  have digits : Hex.decode? ((⟨cell, size⟩ : Uuid).text.toList.filter (· != '-')) = some cell := by
    rw [Uuid.digits_text, Hex.decode?_encode]
  have stored := exact.unhex target (⟨cell, size⟩ : Uuid).text cell held size digits
  have shown : target.decode (.bytes (storage Dialect.unhexMarker target
      (.ofValue (.uuid ⟨cell, size⟩)))) = .ok (.bytes cell) := by
    rw [MysqlValue.ofValue, stored, MysqlColumn.decode_bytes held]
  apply trip_of decoded rfl shown
  simp only [type, PostgresParameter.encode, PostgresParameter.ofBytes, whole]
  rfl

private theorem trip_text {s : String} (exact : storage.Exact)
    (type : source.type = .text ∨ source.type = .varchar) (spelled : cell = Utf8.encode s)
    (held : target.HoldsText) :
    storage.trip roundTime "?" index source target cell = .ok (.ok (some cell)) := by
  subst spelled
  have read : PostgresColumn.readText? (Utf8.encode s) = some s := by
    rw [PostgresColumn.readText?, Utf8.decode_encode]
    rfl
  have decoded : source.decode index (some (Utf8.encode s)) = .ok (.text s) := by
    rcases type with type | type <;>
      simp only [PostgresColumn.decode, type, PostgresColumn.decodeBytes?, read, Option.map_some]
  have shown : target.decode (.bytes (storage "?" target (.ofValue (.text s)))) =
      .ok (.text s) := by
    rw [MysqlValue.ofValue, exact.text target s held, MysqlColumn.decode_text held]
  apply trip_of decoded rfl shown
  rcases type with type | type <;> rw [type] <;> rfl

/-- An identity comes back to PostgreSQL as the bytes it left with, whatever its type and the column
it was stored in. -/
theorem trip_identity (exact : storage.Exact) {columns : List Column} {c : Column}
    (place : columns[index]? = some c) (declared : c.dataType = source.type.declaredName)
    (identity : source.type.IsIdentity cell) (held : target.Matches source.type cell) :
    ∃ marker, (TablePlan.valueMarkers (.mysql roundTime) 0 columns)[index]? = some marker ∧
      storage.trip roundTime marker index source target cell = .ok (.ok (some cell)) := by
  refine ⟨_, TablePlan.valueMarkers_getElem? _ columns 0 place, ?_⟩
  rw [Column.isUuid, declared]
  generalize typed : source.type = type at identity held
  -- Integers differ in how they are read only: all of them travel with the greatest width.
  cases type with
  | int2 =>
    have size : cell.length = 2 := identity
    have range := BigEndian.toInt_range (show 0 < cell.length by omega)
    rw [size] at range
    have number : (Int16.ofInt (BigEndian.toInt cell)).toInt64.toInt = BigEndian.toInt cell := by
      rw [Int16.toInt_toInt64, Int16.toInt_ofInt_of_le range.1 range.2]
    have decoded : source.decode index (some cell) =
        .ok (.int16 (Int16.ofInt (BigEndian.toInt cell))) := by
      simp [PostgresColumn.decode, typed, PostgresColumn.decodeBytes?, BigEndian.readInt?, size]
    exact trip_integer exact size (by decide) decoded rfl rfl number (by rw [typed]; rfl) held
  | int4 =>
    have size : cell.length = 4 := identity
    have range := BigEndian.toInt_range (show 0 < cell.length by omega)
    rw [size] at range
    have number : (Int32.ofInt (BigEndian.toInt cell)).toInt64.toInt = BigEndian.toInt cell := by
      rw [Int32.toInt_toInt64, Int32.toInt_ofInt_of_le range.1 range.2]
    have decoded : source.decode index (some cell) =
        .ok (.int32 (Int32.ofInt (BigEndian.toInt cell))) := by
      simp [PostgresColumn.decode, typed, PostgresColumn.decodeBytes?, BigEndian.readInt?, size]
    exact trip_integer exact size (by decide) decoded rfl rfl number (by rw [typed]; rfl) held
  | int8 =>
    have size : cell.length = 8 := identity
    have range := BigEndian.toInt_range (show 0 < cell.length by omega)
    rw [size] at range
    have number : (Int64.ofInt (BigEndian.toInt cell)).toInt = BigEndian.toInt cell :=
      Int64.toInt_ofInt_of_le range.1 range.2
    have decoded : source.decode index (some cell) =
        .ok (.int64 (Int64.ofInt (BigEndian.toInt cell))) := by
      simp [PostgresColumn.decode, typed, PostgresColumn.decodeBytes?, BigEndian.readInt?, size]
    exact trip_integer exact size (by decide) decoded rfl rfl number (by rw [typed]; rfl) held
  | uuid => exact trip_uuid exact typed identity held
  | text =>
    obtain ⟨s, spelled⟩ := identity
    exact trip_text exact (.inl typed) spelled held
  | varchar =>
    obtain ⟨s, spelled⟩ := identity
    exact trip_text exact (.inr typed) spelled held
  | _ => cases identity

private def documented : MysqlStorage := fun marker _ v =>
  match v with
  | .int n => Utf8.encode (toString n.toInt)
  | .bytes b =>
    if marker == Dialect.unhexMarker then
      match Utf8.decode b with
      | .ok s => (Hex.decode? (s.toList.filter (· != '-'))).getD []
      | .error _ => []
    else b
  | _ => []

private theorem documented_exact : documented.Exact where
  integer c n _ := rfl
  text c s _ := rfl
  unhex c s b _ _ spelled := by
    show (match Utf8.decode (Utf8.encode s) with | .ok s => _ | .error _ => _) = b
    rw [Utf8.decode_encode]
    show (Hex.decode? (s.toList.filter (· != '-'))).getD [] = b
    rw [spelled]
    rfl

private def keyColumn : Column := ⟨"id", "uuid", 0⟩

private def keyCell : Bytes := [0, 1, 2, 3, 4, 5, 6, 7, 8, 9, 10, 11, 12, 13, 14, 255]

theorem trip_identity_of_uuid :
    documented.Exact ∧ ([keyColumn] : List Column)[0]? = some keyColumn ∧
      keyColumn.dataType = PostgresType.uuid.declaredName ∧
      PostgresType.uuid.IsIdentity keyCell ∧
      MysqlColumn.Matches ⟨.string, 63, false⟩ .uuid keyCell ∧
      ∃ marker, (TablePlan.valueMarkers (.mysql true) 0 [keyColumn])[0]? = some marker ∧
        documented.trip true marker 0 ⟨"id", .uuid⟩ ⟨.string, 63, false⟩ keyCell =
          .ok (.ok (some keyCell)) :=
  ⟨documented_exact, rfl, rfl, rfl, ⟨rfl, rfl⟩,
    trip_identity documented_exact rfl rfl rfl ⟨rfl, rfl⟩⟩

end MysqlStorage

end RowSync
