import RowSync.Number.FloatText
import RowSync.Number.Decimal
import RowSync.Calendar.DateTime
import RowSync.Value.Uuid

/-!
The values of table cells and statement parameters: their equality, their text, and their change
to the time resolution of a database.
-/

set_option autoImplicit false

namespace RowSync

/-- The value of one cell or parameter. -/
inductive Value
  | null
  | bool (b : Bool)
  | int16 (n : Int16)
  | int32 (n : Int32)
  | int64 (n : Int64)
  | float32 (x : Binary32)
  | float64 (x : Binary64)
  | decimal (d : Decimal)
  | text (s : String)
  | bytes (b : Bytes)
  | uuid (u : Uuid)
  | dateTime (t : DateTime)
  /-- A point in time, as its UTC date-time. -/
  | instant (t : DateTime)
  | date (d : Date)
  | time (t : TimeOfDay)
  deriving DecidableEq

abbrev Row := List Value

namespace Value

def isNull : Value → Bool
  | null => true
  | _ => false

/-- The number of an integer of any width. -/
def integer? : Value → Option Int
  | int16 n => some n.toInt
  | int32 n => some n.toInt
  | int64 n => some n.toInt
  | _ => none

/-- The number of an integer or truth value. -/
def toInt? : Value → Option Int
  | bool b => some (if b then 1 else 0)
  | v => v.integer?

/-- The truth value; an integer is true unless it is zero. -/
def toBool? : Value → Option Bool
  | bool b => some b
  | v => v.toInt?.map (· != 0)

/-- The characters of a text. -/
def toText? : Value → Option String
  | text s => some s
  | _ => none

/-- Equality of values of one kind; decimals and floats compare as numbers. -/
def sameKindEq : Value → Value → Bool
  | null, null => true
  | bool a, bool b => a == b
  | int16 a, int16 b => a == b
  | int32 a, int32 b => a == b
  | int64 a, int64 b => a == b
  | float32 a, float32 b => a.numericEq b
  | float64 a, float64 b => a.numericEq b
  | decimal a, decimal b => a.valueEq b
  | text a, text b => a == b
  | bytes a, bytes b => a == b
  | uuid a, uuid b => a == b
  | dateTime a, dateTime b => a == b
  | instant a, instant b => a == b
  | date a, date b => a == b
  | time a, time b => a == b
  | _, _ => false

/-- Equality in which NULL matches NULL and integers compare across widths. -/
def nullSafeEq (a b : Value) : Bool :=
  match a.integer?, b.integer? with
  | some m, some n => m == n
  | _, _ => a.sameKindEq b

/-- Numbers listed between brackets. -/
def listed (separator : String) (b : Bytes) : String :=
  "[" ++ separator.intercalate (b.map fun x => toString x.toNat) ++ "]"

def display : Value → String
  | null => "NULL"
  | bool b => if b then "true" else "false"
  | int16 n => toString n.toInt
  | int32 n => toString n.toInt
  | int64 n => toString n.toInt
  | float32 x => x.text
  | float64 x => x.text
  | decimal d => d.text
  | text s => s
  | bytes b => listed ", " b
  | uuid u => u.text
  | dateTime t => t.text " "
  | instant t => t.text " " ++ " UTC"
  | date d => d.text
  | time t => t.text

/-- The length in bytes at which text or bytes may be a written identifier. -/
def writtenUuidLength : Nat := 36

/-- A row identity as text: identifiers in every representation have their hyphenated form. -/
def idText : Value → String
  | bytes b =>
    match Uuid.ofBytes? b with
    | some u => u.text
    | none =>
      let written :=
        if b.length == writtenUuidLength then
          match Utf8.decode b with
          | .ok s => Uuid.read? s
          | .error _ => none
        else none
      match written with
      | some u => u.text
      | none => listed " " b
  | text s =>
    if (Utf8.encode s).length == writtenUuidLength then
      match Uuid.read? s with
      | some u => u.text
      | none => s
    else s
  | v => v.display

/-- Applies a change of resolution to date-times and times; a time that passes midnight wraps. -/
def mapTime (normalize : DateTime → DateTime) : Value → Value
  | dateTime t => dateTime (normalize t)
  | instant t => instant (normalize t)
  | time t => time (normalize ⟨.first, t⟩).time
  | v => v

/-- How a database stores the part of a second of a time. -/
inductive TimeResolution
  /-- Times are kept as they are. -/
  | exact
  /-- The nearest second, a half going up. -/
  | rounded
  /-- The second begun. -/
  | truncated
  deriving DecidableEq, Repr

/-- The date-time that a database of that resolution stores. -/
def TimeResolution.normalize : TimeResolution → DateTime → DateTime
  | .exact => id
  | .rounded => DateTime.roundToSecond
  | .truncated => DateTime.truncate

end Value

end RowSync
