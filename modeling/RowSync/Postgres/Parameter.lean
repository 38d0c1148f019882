import RowSync.Calendar.Reading
import RowSync.Number.DecimalFloat
import RowSync.Postgres.Numeric
import RowSync.Postgres.Type
import RowSync.Text.LowerCase
import RowSync.Value.Basic

/-!
Parameters of PostgreSQL statements in binary form. The server tells the type of each parameter, and
a value is brought to that type, directly or through its text.
-/

set_option autoImplicit false

namespace RowSync

/-- Why a value has no form in a type. -/
inductive ParameterFault
  | identifier
  | boolean (text : String)
  | decimalToInteger (d : Decimal)
  | floatToNumeric (x : Binary64)
  | integer (fault : IntegerFault)
  | float (fault : FloatFault)
  | decimal (fault : DecimalFault)
  | calendar (fault : CalendarFault)
  | encoding (fault : Utf8.Malformed)
  deriving DecidableEq

def ParameterFault.message : ParameterFault → String
  | identifier => "invalid identifier"
  | boolean s => s!"invalid boolean '{s}'"
  | decimalToInteger d => s!"decimal {d.text} does not fit an integer"
  | floatToNumeric x => s!"float {x.text} does not fit a numeric"
  | integer fault => fault.message
  | float fault => fault.message
  | decimal fault => fault.message
  | calendar fault => fault.message
  | encoding fault => fault.message

namespace PostgresParameter

abbrev Encoded := Except ParameterFault Bytes

def ofBool (b : Bool) : Bytes := [if b then 1 else 0]

def ofDecimal (d : Decimal) : Bytes := (PostgresNumeric.ofDecimal d).toBytes

/-- A date, as days since the epoch. -/
def ofDate (d : Date) : Bytes := BigEndian.ofInt 4 (d.dayNumber - DateTime.epochDay)

/-- A date-time, as microseconds since the epoch. -/
def ofDateTime (t : DateTime) : Bytes := BigEndian.ofInt 8 t.epochMicros

/-- A time of day, as microseconds since midnight. -/
def ofTime (t : TimeOfDay) : Bytes :=
  BigEndian.ofInt 8 ((t.second * nanosPerSecond + t.nano) / 1000 : Nat)

/-- An integer that fits the width in bytes. -/
def ofInteger (width : Nat) (n : Int) : Encoded :=
  match Integer.narrow (8 * width) n with
  | .ok n => .ok (BigEndian.ofInt width n)
  | .error fault => .error (.integer fault)

/-- The outcome of reading, its fault named. -/
def reading {ε α : Type} (fault : ε → ParameterFault) : Except ε α → Except ParameterFault α
  | .ok a => .ok a
  | .error e => .error (fault e)

/-- A truth value from its words in any case. -/
def readBool (s : String) : Except ParameterFault Bool :=
  match Text.lower s with
  | "t" | "true" | "1" | "yes" | "on" => .ok true
  | "f" | "false" | "0" | "no" | "off" => .ok false
  | other => .error (.boolean other)

/-- The mark in front of a document in the type `jsonb`. -/
def documentMark : UInt8 := 1

def ofSingle (x : Binary64) : Bytes := (x.convert .single).toBytes

/-- An integer from its text, without the blanks around it. -/
def readInteger (s : String) : Except ParameterFault Int :=
  reading .integer (Integer.readSigned 64 (Text.trim s))

/-- A number in double precision from its text, without the blanks around it. -/
def readFloat (s : String) : Except ParameterFault Binary64 :=
  reading .float (FloatText.read .double (Text.trim s))

/-- A text, read as a value of the type. -/
def ofText (type : PostgresType) (s : String) : Encoded :=
  match type with
  | .uuid =>
    match Uuid.read? s with
    | some u => .ok u.bytes
    | none => .error .identifier
  | .bool => (readBool s).map ofBool
  | .int2 => readInteger s >>= ofInteger 2
  | .int4 => readInteger s >>= ofInteger 4
  | .int8 => readInteger s >>= ofInteger 8
  | .float4 => (readFloat s).map ofSingle
  | .float8 => (readFloat s).map Binary.toBytes
  | .numeric => (reading .decimal (DecimalText.read (Text.trim s))).map ofDecimal
  | .timestamp => (reading .calendar (Calendar.readDateTime .blanks s)).map ofDateTime
  | .timestamptz => (reading .calendar (Calendar.readInstant s)).map ofDateTime
  | .date => (reading .calendar (Calendar.readDate s)).map ofDate
  | .time => (reading .calendar (Calendar.readTime s)).map ofTime
  | .jsonb => .ok (documentMark :: Utf8.encode s)
  | _ => .ok (Utf8.encode s)

/-- An integer; a type that is neither a number nor a truth value takes its text. -/
def ofInt (type : PostgresType) (n : Int) : Encoded :=
  match type with
  | .int2 => ofInteger 2 n
  | .int4 => ofInteger 4 n
  | .int8 => ofInteger 8 n
  | .bool => .ok (ofBool (n != 0))
  | .float4 => .ok (Binary.ofInt .single n).toBytes
  | .float8 => .ok (Binary.ofInt .double n).toBytes
  | .numeric => .ok (ofDecimal (Decimal.ofInt n))
  | type => ofText type (toString n)

/-- A number in double precision; a type without places takes its text. -/
def ofFloat (type : PostgresType) (x : Binary64) : Encoded :=
  match type with
  | .float4 => .ok (ofSingle x)
  | .float8 => .ok x.toBytes
  | .numeric =>
    match Decimal.ofBinary64? x with
    | some d => .ok (ofDecimal d)
    | none => .error (.floatToNumeric x)
  | type => ofText type x.text

/-- A decimal; an integer type takes the part in front of the point. -/
def ofDecimalValue (type : PostgresType) (d : Decimal) : Encoded :=
  match type with
  | .numeric => .ok (ofDecimal d)
  | .int2 | .int4 | .int8 =>
    match d.toInt64? with
    | some n => ofInt type n
    | none => .error (.decimalToInteger d)
  | .float4 | .float8 => ofFloat type d.toBinary64
  | type => ofText type d.text

/-- Bytes; a type of another kind takes them as characters. -/
def ofBytes (type : PostgresType) (b : Bytes) : Encoded :=
  match type with
  | .uuid =>
    match Uuid.ofBytes? b with
    | some u => .ok u.bytes
    | none => .error .identifier
  | .bytea => .ok b
  | type => do
    let s ← reading .encoding (Utf8.decode b)
    ofText type s

/-- The form of a value in a type; NULL has none. -/
def encode (type : PostgresType) : Value → Except ParameterFault (Option Bytes)
  | .null => .ok none
  | .bool b => some <$> ofInt type (if b then 1 else 0)
  | .int16 n => some <$> ofInt type n.toInt
  | .int32 n => some <$> ofInt type n.toInt
  | .int64 n => some <$> ofInt type n.toInt
  | .float32 x => some <$> ofFloat type (x.convert .double)
  | .float64 x => some <$> ofFloat type x
  | .decimal d => some <$> ofDecimalValue type d
  | .text s => some <$> ofText type s
  | .bytes b => some <$> ofBytes type b
  | .uuid u =>
    match type with
    | .uuid | .bytea => .ok (some u.bytes)
    | type => some <$> ofText type u.text
  | .dateTime t =>
    match type with
    | .timestamp | .timestamptz => .ok (some (ofDateTime t))
    | .date => .ok (some (ofDate t.date))
    | type => some <$> ofText type (t.text " ")
  | .instant t =>
    match type with
    | .timestamp | .timestamptz => .ok (some (ofDateTime t))
    | type => some <$> ofText type (t.text "T" ++ "+00:00")
  | .date d =>
    match type with
    | .date => .ok (some (ofDate d))
    | .timestamp => .ok (some (ofDateTime ⟨d, .midnight⟩))
    | type => some <$> ofText type d.text
  | .time t =>
    match type with
    | .time => .ok (some (ofTime t))
    | type => some <$> ofText type t.text

end PostgresParameter

end RowSync
