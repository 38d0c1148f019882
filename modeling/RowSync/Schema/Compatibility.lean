import RowSync.Schema.Basic

/-!
Whether values of a source column fit a destination column. The rule of declared bounds decides
what is validated; the verdict by families of types is only reported.
-/

set_option autoImplicit false

namespace RowSync

/-- The two columns hold identifiers, natively in one and as sixteen bytes in the other. -/
def isUuidBinaryPair (uuid binary : Column) : Bool :=
  uuid.isUuid && ["binary", "varbinary"].contains (Text.lower binary.dataType) &&
    binary.maxChars == 16

/-- The declared bounds say that every source value fits. Equal bounds do not count as fitting. -/
def isCompatible (source target : Column) : Bool :=
  if source.maxChars == 0 && target.maxChars == 0 then true
  else if 0 < source.maxChars && 0 < target.maxChars then source.maxChars < target.maxChars
  else isUuidBinaryPair source target || isUuidBinaryPair target source

/-- A destination column with the source column that feeds it. -/
structure ColumnPair where
  source : Column
  target : Column
  deriving DecidableEq, Repr

/-- The pairs of the given destination columns whose values may not fit, with the lines logged. -/
def incompatibleAmong (source target : Table) :
    List Column → Outcome (List ColumnPair) × List LogLine
  | [] => (.ok [], [])
  | c :: rest =>
    match source.lookup c.name with
    | (.error e, logs) =>
      (.error (e.within s!"failed to find column '{target.name}/{c.name}' in source schema"), logs)
    | (.ok sourceColumn, logs) =>
      let (pairs, more) := incompatibleAmong source target rest
      let here := if isCompatible sourceColumn c then [] else [ColumnPair.mk sourceColumn c]
      (pairs.map (here ++ ·), logs ++ more)

/-- The pairs whose source values may not fit, in the order of the destination columns. -/
def incompatibleColumns (source target : Table) : Outcome (List ColumnPair) × List LogLine :=
  incompatibleAmong source target target.columns

/-- What is known about a pair of types. -/
inductive Verdict
  | safe
  | unsafeBecause (reason : String)
  | needsReview
  deriving DecidableEq, Repr

/-- Families of types that are judged alike. -/
inductive TypeFamily
  | integer (bytes : Nat)
  | varChar
  | fixedChar
  | boolean
  | blob
  | bytea
  | binary
  | timestamp
  | uuid
  | other
  deriving DecidableEq, Repr

/-- The spellings of the types of each family. -/
def familySpellings : List (TypeFamily × List String) := [
  (.integer 2, ["smallint", "int2"]),
  (.integer 3, ["mediumint"]),
  (.integer 4, ["integer", "int", "int4"]),
  (.integer 8, ["bigint", "int8"]),
  (.integer 1, ["tinyint"]),
  (.varChar, ["character varying", "varchar", "text", "tinytext", "mediumtext", "longtext"]),
  (.fixedChar, ["character", "char", "bpchar"]),
  (.boolean, ["boolean", "bool"]),
  (.blob, ["blob", "tinyblob", "mediumblob", "longblob"]),
  (.bytea, ["bytea"]),
  (.binary, ["binary", "varbinary"]),
  (.timestamp, ["timestamp", "timestamp without time zone", "timestamp with time zone",
    "timestamptz", "datetime"]),
  (.uuid, ["uuid"])]

/-- The family of a declared type, in any case and with blanks around it. -/
def TypeFamily.ofType (dataType : String) : TypeFamily :=
  let spelling := Text.lower (Text.trim dataType)
  match familySpellings.find? fun entry => entry.2.contains spelling with
  | some (family, _) => family
  | none => .other

/-- Bounds from here on mean that a column is not bounded. -/
def unboundedFrom : Int := 4294967295

/-- Byte columns from this bound on hold every value met in practice. -/
def ampleBytes : Int := 16777215

/-- The bound of a column, zero when it has none. -/
def effectiveBound (c : Column) : Int := if unboundedFrom ≤ c.maxChars then 0 else c.maxChars

/-- The verdict on bounds alone. -/
def boundVerdict (source target : Column) : Verdict :=
  let src := effectiveBound source
  let dst := effectiveBound target
  if dst == 0 || (0 < src && src ≤ dst) then .safe
  else if src == 0 then .unsafeBecause s!"unbounded source into {target.dataType}({dst})"
  else .unsafeBecause s!"bound {src} exceeds destination bound {dst}"

/-- The verdict on types of different spellings that no rule covers, or on equal ones by bounds. -/
def spellingVerdict (source target : Column) : Verdict :=
  if Text.sameAscii source.dataType target.dataType then boundVerdict source target
  else .needsReview

/-- The verdict on a pair of columns. -/
def classify (source target : Column) : Verdict :=
  match TypeFamily.ofType source.dataType, TypeFamily.ofType target.dataType with
  | .integer a, .integer b =>
    if 1 < a && 1 < b then
      if a ≤ b then .safe
      else .unsafeBecause s!"{source.dataType} narrows to {target.dataType}"
    else spellingVerdict source target
  | .varChar, .varChar | .fixedChar, .fixedChar => boundVerdict source target
  | .boolean, .integer 1 | .integer 1, .boolean => .safe
  | .bytea, .blob | .bytea, .binary =>
    if ampleBytes ≤ target.maxChars then .safe
    else .unsafeBecause s!"bytea into {target.dataType} limited to {target.maxChars} bytes"
  | .blob, .bytea => .safe
  | .timestamp, .timestamp => .safe
  | .uuid, .binary | .binary, .uuid =>
    if isUuidBinaryPair source target || isUuidBinaryPair target source then .safe
    else .unsafeBecause "uuid requires binary(16)"
  | .uuid, .uuid => .safe
  | _, _ => spellingVerdict source target

end RowSync
