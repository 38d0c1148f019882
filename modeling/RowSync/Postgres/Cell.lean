import RowSync.Failure
import RowSync.Json.Reading
import RowSync.Postgres.Numeric
import RowSync.Postgres.Type
import RowSync.Value.Basic

/-!
Cells of PostgreSQL result sets, decoded from their binary form by the type of their column.
-/

set_option autoImplicit false

namespace RowSync

structure PostgresColumn where
  name : String
  type : PostgresType
  deriving DecidableEq, Repr

namespace PostgresColumn

def readText? (b : Bytes) : Option String := (Utf8.decode b).toOption

/-- A truth value; every byte but zero is true. -/
def readBool? : Bytes → Option Bool
  | [b] => some (b != 0)
  | _ => none

def readFloat? (f : BinaryFormat) (b : Bytes) : Option (Binary f) :=
  if 8 * b.length == f.width then some ⟨BitVec.ofNat _ (BigEndian.toNat b)⟩ else none

/-- A date-time from microseconds since the epoch. -/
def readDateTime? (b : Bytes) : Option DateTime :=
  (BigEndian.readInt? 8 b).bind DateTime.ofEpochMicros?

/-- A date from days since the epoch. -/
def readDate? (b : Bytes) : Option Date :=
  (BigEndian.readInt? 4 b).bind fun n => Date.ofDayNumber? (DateTime.epochDay + n)

/-- A time of day from microseconds since midnight, days left out. -/
def readTime? (b : Bytes) : Option TimeOfDay :=
  (BigEndian.readInt? 8 b).map DateTime.timeOfMicros

def readDocument? (b : Bytes) : Option String :=
  ((readText? b).bind JsonTree.read?).map JsonTree.compact

/-- A document behind the mark of its form. -/
def readMarkedDocument? : Bytes → Option String
  | 1 :: b => readDocument? b
  | _ => none

/-- The value that the bytes stand for in a type. -/
def decodeBytes? : PostgresType → Bytes → Option Value
  | .bool, b => (readBool? b).map .bool
  | .int2, b => (BigEndian.readInt? 2 b).map fun n => .int16 (Int16.ofInt n)
  | .int4, b => (BigEndian.readInt? 4 b).map fun n => .int32 (Int32.ofInt n)
  | .int8, b => (BigEndian.readInt? 8 b).map fun n => .int64 (Int64.ofInt n)
  | .float4, b => (readFloat? .single b).map .float32
  | .float8, b => (readFloat? .double b).map .float64
  | .numeric, b =>
    ((PostgresNumeric.ofBytes? b).bind PostgresNumeric.toDecimal?).map .decimal
  | .uuid, b => (Uuid.ofBytes? b).map .uuid
  | .bytea, b => some (.bytes b)
  | .timestamp, b => (readDateTime? b).map .dateTime
  | .timestamptz, b => (readDateTime? b).map .instant
  | .date, b => (readDate? b).map .date
  | .time, b => (readTime? b).map .time
  | .json, b => (readDocument? b).map .text
  | .jsonb, b => (readMarkedDocument? b).map .text
  | .text, b | .varchar, b | .bpchar, b | .name, b => (readText? b).map .text
  | .other _, _ => none

/-- The value of the cell with that index. -/
def decode (index : Nat) (c : PostgresColumn) (cell : Option Bytes) : Outcome Value :=
  match c.type, cell with
  | .other typeName, _ =>
    .error (.value (s!"column {c.name} has type {typeName} without a binary decoding; " ++
      "select it as text"))
  | _, none => .ok .null
  | type, some b =>
    match decodeBytes? type b with
    | some v => .ok v
    | none => .error (.postgres (.cell index))

/-- The values of a row from the column with that index on, up to the first cell without one. -/
def decodeFrom (index : Nat) : List PostgresColumn → List (Option Bytes) → Outcome Row
  | [], _ => .ok []
  | c :: columns, cells => do
    let v ← c.decode index (cells.headD none)
    let row ← decodeFrom (index + 1) columns cells.tail
    pure (v :: row)

def decodeRow (columns : List PostgresColumn) (cells : List (Option Bytes)) : Outcome Row :=
  decodeFrom 0 columns cells

end PostgresColumn

end RowSync
