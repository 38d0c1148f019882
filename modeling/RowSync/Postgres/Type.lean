/-!
The types of PostgreSQL parameters and columns.
-/

set_option autoImplicit false

namespace RowSync

/-- A type; those that are neither encoded nor decoded in a form of their own have their name. -/
inductive PostgresType
  | bool | int2 | int4 | int8 | float4 | float8 | numeric | uuid | bytea | timestamp | timestamptz
  | date | time | json | jsonb | text | varchar | bpchar | name
  | other (typeName : String)
  deriving DecidableEq, Repr

namespace PostgresType

/-- The types with a form of their own, by name. -/
def named : List (String × PostgresType) := [
  ("bool", bool), ("int2", int2), ("int4", int4), ("int8", int8), ("float4", float4),
  ("float8", float8), ("numeric", numeric), ("uuid", uuid), ("bytea", bytea),
  ("timestamp", timestamp), ("timestamptz", timestamptz), ("date", date), ("time", time),
  ("json", json), ("jsonb", jsonb), ("text", text), ("varchar", varchar), ("bpchar", bpchar),
  ("name", name)]

def ofName (typeName : String) : PostgresType := (named.lookup typeName).getD (other typeName)

/-- Plain characters are a value's form in the type. -/
def isCharacters : PostgresType → Bool
  | text | varchar | bpchar | name => true
  | _ => false

end PostgresType

end RowSync
