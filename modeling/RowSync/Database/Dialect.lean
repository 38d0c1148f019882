import RowSync.Config.Options
import RowSync.Value.Basic
import RowSync.Text.LowerCase

/-!
The differences between the statements of databases: quoting of names, parameters, comparison
that treats NULL as a value, storage of identifiers, and resolution of times.
-/

set_option autoImplicit false

namespace RowSync

/-- How statements for a database are written. -/
structure Dialect where
  flavor : Flavor
  /-- A name as it stands in a statement. -/
  quote : String → String
  /-- The expression that reads a column of a declared type. -/
  selectExpression : (column dataType : String) → String
  /-- The place of the parameter with that index. -/
  marker : Nat → String
  /-- The place of a parameter that holds an identifier. -/
  uuidMarker : Nat → String
  /-- The condition that a column equals the parameter, NULL included. -/
  comparison : (index : Nat) → (column sourceType : String) → String
  /-- The date-time that the database stores. -/
  normalize : DateTime → DateTime

namespace Dialect

/-- Puts a quote character around a name and doubles it inside. -/
def quoteWith (quote : Char) (name : String) : String :=
  let doubled := name.toList.flatMap fun c => if c == quote then [c, c] else [c]
  String.ofList (quote :: doubled ++ [quote])

/-- The quote character of PostgreSQL names. -/
def doubleQuote : Char := '"'

/-- The quote character of MySQL names. -/
def graveAccent : Char := Char.ofNat 0x60

/-- The expression that turns a hyphenated identifier into its sixteen bytes. -/
def unhexMarker : String := "UNHEX(REPLACE(?, '-', ''))"

/-- Names stand as they are, and only the exact spelling of the identifier type is recognized. -/
def plain (resolution : Value.TimeResolution) : Dialect where
  flavor := .mysql
  quote := id
  selectExpression := fun column _ => column
  marker := fun _ => "?"
  uuidMarker := fun _ => unhexMarker
  comparison := fun _ column sourceType =>
    column ++ " <=> " ++ if sourceType == "uuid" then unhexMarker else "?"
  normalize := resolution.normalize

/-- The dialect of MySQL; times are stored to the second. -/
def mysql (roundTime : Bool) : Dialect where
  flavor := .mysql
  quote := quoteWith graveAccent
  selectExpression := fun column _ => quoteWith graveAccent column
  marker := fun _ => "?"
  uuidMarker := fun _ => unhexMarker
  comparison := fun _ column sourceType =>
    quoteWith graveAccent column ++ " <=> " ++
      if Text.sameAscii sourceType "uuid" then unhexMarker else "?"
  normalize :=
    (if roundTime then Value.TimeResolution.rounded else Value.TimeResolution.truncated).normalize

/-- The parameter with that index in PostgreSQL. -/
def numberedMarker (index : Nat) : String := s!"${index + 1}"

/-- The declared types of PostgreSQL whose binary form is decoded. -/
def decodedTypes : List String := [
  "boolean", "smallint", "integer", "bigint", "real", "double precision", "numeric", "uuid",
  "bytea", "timestamp without time zone", "timestamp with time zone", "date",
  "time without time zone", "json", "jsonb", "text", "character varying", "character", "name"]

/-- The dialect of PostgreSQL; columns without a decoding are read as text. -/
def postgres : Dialect where
  flavor := .postgres
  quote := quoteWith doubleQuote
  selectExpression := fun column dataType =>
    if decodedTypes.contains (Text.asciiLower dataType) then quoteWith doubleQuote column
    else quoteWith doubleQuote column ++ "::text"
  marker := numberedMarker
  uuidMarker := numberedMarker
  comparison := fun index column _ =>
    "NOT (" ++ quoteWith doubleQuote column ++ " IS DISTINCT FROM " ++ numberedMarker index ++ ")"
  normalize := id

def truncateStatement (d : Dialect) (table : String) : String := "TRUNCATE TABLE " ++ d.quote table

end Dialect

end RowSync
