import RowSync.Calendar.Reading
import RowSync.Failure
import RowSync.Mysql.Value

/-!
Cells of MySQL result sets. The declared type of the column decides what a cell becomes, whether it
arrives as a typed value or as the characters of its text.
-/

set_option autoImplicit false

namespace RowSync

/-- The column types of MySQL. -/
inductive MysqlType
  | decimal | tiny | short | long | float | double | null | timestamp | longLong | int24 | date
  | time | dateTime | year | newDate | varChar | bit | timestamp2 | dateTime2 | time2 | typedArray
  | vector | unknown | json | newDecimal | enum | set | tinyBlob | mediumBlob | longBlob | blob
  | varString | string | geometry
  deriving DecidableEq, Repr

namespace MysqlType

/-- The types by their names. -/
def named : List (String × MysqlType) := [
  ("DECIMAL", decimal), ("TINY", tiny), ("SHORT", short), ("LONG", long), ("FLOAT", float),
  ("DOUBLE", double), ("NULL", null), ("TIMESTAMP", timestamp), ("LONGLONG", longLong),
  ("INT24", int24), ("DATE", date), ("TIME", time), ("DATETIME", dateTime), ("YEAR", year),
  ("NEWDATE", newDate), ("VARCHAR", varChar), ("BIT", bit), ("TIMESTAMP2", timestamp2),
  ("DATETIME2", dateTime2), ("TIME2", time2), ("TYPED_ARRAY", typedArray), ("VECTOR", vector),
  ("UNKNOWN", unknown), ("JSON", json), ("NEWDECIMAL", newDecimal), ("ENUM", enum), ("SET", set),
  ("TINY_BLOB", tinyBlob), ("MEDIUM_BLOB", mediumBlob), ("LONG_BLOB", longBlob), ("BLOB", blob),
  ("VAR_STRING", varString), ("STRING", string), ("GEOMETRY", geometry)]

def ofName? (name : String) : Option MysqlType := named.lookup name

end MysqlType

/-- What is known of a column of a result set. -/
structure MysqlColumn where
  type : MysqlType
  /-- The number of the character set. -/
  charset : Nat := 45
  unsigned : Bool := false
  deriving DecidableEq, Repr

/-- The number of the character set that stands for plain bytes. -/
def binaryCharset : Nat := 63

namespace MysqlValue

/-- The value as text; dates and times stand between quotes. -/
def toText : MysqlValue → Outcome String
  | null => .ok "NULL"
  | bytes b =>
    match Utf8.decode b with
    | .ok s => .ok s
    | .error e => .error (.value ("invalid UTF-8: " ++ e.message))
  | int n => .ok (toString n.toInt)
  | uint n => .ok (toString n.toNat)
  | float x => .ok x.text
  | double x => .ok x.text
  | date d => .ok ("'" ++ d.text ++ "'")
  | time t => .ok ("'" ++ t.text ++ "'")

end MysqlValue

namespace MysqlColumn

/-- A text read without the blanks around it. -/
def readText {ε α : Type} (read : String → Except ε α) (explain : ε → String) (s : String) :
    Outcome α :=
  match read (Text.trim s) with
  | .ok a => .ok a
  | .error e => .error (.value s!"'{s}': {explain e}")

/-- An integer that is not negative; beyond 64 bits with a sign it becomes a decimal. -/
def ofUnsigned (n : Nat) : Value :=
  if n < Nat.pow 2 63 then .int64 (Int64.ofNat n) else .decimal (Decimal.ofInt n)

def decodeInteger (unsigned : Bool) : MysqlValue → Outcome Value
  | .int n => .ok (.int64 n)
  | .uint n => .ok (ofUnsigned n.toNat)
  | v => do
    let s ← v.toText
    if unsigned then
      (readText (Integer.readUnsigned 64) IntegerFault.message s).map ofUnsigned
    else
      (readText (Integer.readSigned 64) IntegerFault.message s).map fun n => .int64 (Int64.ofInt n)

def decodeSingle : MysqlValue → Outcome Value
  | .float x => .ok (.float32 x)
  | .double x => .ok (.float32 (x.convert .single))
  | v => do
    let s ← v.toText
    (readText (FloatText.read .single) FloatFault.message s).map .float32

def decodeDouble : MysqlValue → Outcome Value
  | .double x => .ok (.float64 x)
  | .float x => .ok (.float64 (x.convert .double))
  | v => do
    let s ← v.toText
    (readText (FloatText.read .double) FloatFault.message s).map .float64

def decodeDecimal (v : MysqlValue) : Outcome Value := do
  let s ← v.toText
  (readText DecimalText.read DecimalFault.message s).map .decimal

/-- What MySQL writes for no date. -/
def zeroDate : String := "0000-00-00"

/-- A date or date-time read from text; the date that MySQL writes for none is NULL. -/
def readCalendar {α : Type} (kind : String) (read : String → Except CalendarFault α)
    (toValue : α → Value) (s : String) : Outcome Value :=
  match read s with
  | .ok a => .ok (toValue a)
  | .error e =>
    if Text.startsWith s zeroDate then .ok .null
    else .error (.value s!"{kind} '{s}': {e.message}")

def decodeDate : MysqlValue → Outcome Value
  | .date d => .ok (d.toDate?.elim .null .date)
  | v => v.toText >>= readCalendar "date" Calendar.readDate .date

def decodeDateTime : MysqlValue → Outcome Value
  | .date d => .ok (d.toDateTime?.elim .null .dateTime)
  | v => v.toText >>= readCalendar "datetime" (Calendar.readDateTime .blanks) .dateTime

/-- A cell of a time column; a span that is no time of day stays text. -/
def decodeTime : MysqlValue → Outcome Value
  | .time t => .ok t.toValue
  | v => do
    let s ← v.toText
    match Calendar.readTime s with
    | .ok t => .ok (.time t)
    | .error _ => .ok (.text s)

def decodeText (v : MysqlValue) : Outcome Value := v.toText.map .text

/-- A cell of a column of characters or bytes. -/
def decodeString (charset : Nat) : MysqlValue → Outcome Value
  | .bytes b => if charset == binaryCharset then .ok (.bytes b) else decodeText (.bytes b)
  | v => decodeText v

def decode (c : MysqlColumn) (v : MysqlValue) : Outcome Value :=
  match v with
  | .null => .ok .null
  | v =>
    match c.type with
    | .tiny | .short | .long | .int24 | .longLong | .year => decodeInteger c.unsigned v
    | .float => decodeSingle v
    | .double => decodeDouble v
    | .decimal | .newDecimal => decodeDecimal v
    | .date | .newDate => decodeDate v
    | .dateTime | .dateTime2 | .timestamp | .timestamp2 => decodeDateTime v
    | .time | .time2 => decodeTime v
    | .json => decodeText v
    | _ => decodeString c.charset v

/-- The values of a row, up to the first cell that has none; a cell that is not there is NULL. -/
def decodeRow : List MysqlColumn → List MysqlValue → Outcome Row
  | [], _ => .ok []
  | c :: columns, cells => do
    let v ← c.decode (cells.headD .null)
    let row ← decodeRow columns cells.tail
    pure (v :: row)

end MysqlColumn

end RowSync
