import RowSync.Value.Basic

/-!
Values as they travel to and from a MySQL server. Dates and times carry bare numbers, which need
not name a day or a time of day.
-/

set_option autoImplicit false

namespace RowSync

/-- A date-time on the wire. -/
structure MysqlDate where
  year : UInt16
  month : UInt8
  day : UInt8
  hour : UInt8
  minute : UInt8
  second : UInt8
  micro : UInt32
  deriving DecidableEq, Repr

/-- A span of time on the wire. -/
structure MysqlTime where
  negative : Bool
  days : UInt32
  hours : UInt8
  minutes : UInt8
  seconds : UInt8
  micros : UInt32
  deriving DecidableEq, Repr

/-- A value on the wire. -/
inductive MysqlValue
  | null
  | bytes (b : Bytes)
  | int (n : Int64)
  | uint (n : UInt64)
  | float (x : Binary32)
  | double (x : Binary64)
  | date (d : MysqlDate)
  | time (t : MysqlTime)
  deriving DecidableEq

namespace MysqlDate

def ofDate (d : Date) : MysqlDate :=
  ⟨UInt16.ofInt d.year, UInt8.ofNat d.month, UInt8.ofNat d.day, 0, 0, 0, 0⟩

/-- The date-time to the microsecond begun; a leap second shows in the microseconds. -/
def ofDateTime (t : DateTime) : MysqlDate :=
  { ofDate t.date with
    hour := UInt8.ofNat t.time.hour
    minute := UInt8.ofNat t.time.minute
    second := UInt8.ofNat t.time.secondOfMinute
    micro := UInt32.ofNat (t.time.nano / 1000) }

/-- The day, if the numbers name one. -/
def toDate? (d : MysqlDate) : Option Date := Date.ofParts? d.year.toNat d.month.toNat d.day.toNat

def toDateTime? (d : MysqlDate) : Option DateTime := do
  let date ← d.toDate?
  let time ← TimeOfDay.ofParts? d.hour.toNat d.minute.toNat d.second.toNat (d.micro.toNat * 1000)
  pure ⟨date, time⟩

/-- The text between the quotes of a statement: parts that are zero to the end are left out. -/
def text (d : MysqlDate) : String :=
  let day := padded 4 d.year.toNat ++ "-" ++ padded 2 d.month.toNat ++ "-" ++ padded 2 d.day.toNat
  let clock :=
    padded 2 d.hour.toNat ++ ":" ++ padded 2 d.minute.toNat ++ ":" ++ padded 2 d.second.toNat
  if d.micro != 0 then day ++ " " ++ clock ++ "." ++ padded 6 d.micro.toNat
  else if d.hour != 0 || d.minute != 0 || d.second != 0 then day ++ " " ++ clock
  else day

end MysqlDate

namespace MysqlTime

/-- A time of day to the microsecond begun. -/
def ofTimeOfDay (t : TimeOfDay) : MysqlTime :=
  ⟨false, 0, UInt8.ofNat t.hour, UInt8.ofNat t.minute, UInt8.ofNat t.secondOfMinute,
    UInt32.ofNat (t.nano / 1000)⟩

def allHours (t : MysqlTime) : UInt32 := t.days * 24 + t.hours.toUInt32

/-- The sign in front of a negative span. -/
def sign (t : MysqlTime) : String := if t.negative then "-" else ""

def minutesAndSeconds (t : MysqlTime) : String :=
  ":" ++ padded 2 t.minutes.toNat ++ ":" ++ padded 2 t.seconds.toNat

/-- The text between the quotes of a statement. -/
def text (t : MysqlTime) : String :=
  t.sign ++ padded 3 t.allHours.toNat ++ t.minutesAndSeconds ++
    if t.micros == 0 then "" else "." ++ padded 6 t.micros.toNat

/-- A span is a time of day when it is neither negative nor as long as a day. -/
def toTimeOfDay? (t : MysqlTime) : Option TimeOfDay :=
  TimeOfDay.ofParts? t.hours.toNat t.minutes.toNat t.seconds.toNat (t.micros.toNat * 1000)

/-- The value of a cell: a time of day, or the text of the span to the second. -/
def toValue (t : MysqlTime) : Value :=
  if t.negative || t.days != 0 then
    .text (t.sign ++ toString t.allHours.toNat ++ t.minutesAndSeconds)
  else
    match t.toTimeOfDay? with
    | some time => .time time
    | none => .text (padded 2 t.hours.toNat ++ t.minutesAndSeconds)

end MysqlTime

namespace MysqlValue

def ofText (s : String) : MysqlValue := bytes (Utf8.encode s)

/-- The form in which a parameter travels. -/
def ofValue : Value → MysqlValue
  | .null => null
  | .bool b => int (if b then 1 else 0)
  | .int16 n => int n.toInt64
  | .int32 n => int n.toInt64
  | .int64 n => int n
  | .float32 x => float x
  | .float64 x => double x
  | .decimal d => ofText d.text
  | .text s => ofText s
  | .bytes b => bytes b
  | .uuid u => ofText u.text
  | .dateTime t => date (.ofDateTime t)
  | .instant t => date (.ofDateTime t)
  | .date d => date (.ofDate d)
  | .time t => time (.ofTimeOfDay t)

end MysqlValue

end RowSync
