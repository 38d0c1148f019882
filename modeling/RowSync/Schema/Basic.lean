import RowSync.Failure
import RowSync.Journal
import RowSync.Text.LowerCase
import RowSync.Text.Quoted

/-!
Tables and columns as a database describes them. Names are looked up in lower case, and a schema
keeps its tables in the order of their lower-case names.
-/

set_option autoImplicit false

namespace RowSync

/-- One row of the description of a database. -/
structure SchemaRow where
  table : String
  column : String
  dataType : String
  /-- Declared bound in characters or bytes. -/
  maxChars? : Option Int
  deriving DecidableEq, Repr

def SchemaRow.diagnostic (row : SchemaRow) : String :=
  let bound :=
    match row.maxChars? with
    | some n => s!"Some({n})"
    | none => "None"
  "SchemaRow \x7b table_name: " ++ Text.quoted row.table ++ ", column_name: " ++
    Text.quoted row.column ++ ", data_type: " ++ Text.quoted row.dataType ++ ", max_chars: " ++
    bound ++ " \x7d"

structure Column where
  /-- The name as the database spells it. -/
  name : String
  dataType : String
  /-- Declared bound; zero means none. -/
  maxChars : Int
  deriving DecidableEq, Repr

namespace Column

/-- The name under which the column is looked up. -/
def key (c : Column) : String := Text.lower c.name

def identityKey : String := "id"

def isIdentity (c : Column) : Bool := c.key == identityKey

/-- The declared type is that of identifiers. -/
def isUuid (c : Column) : Bool := Text.sameAscii c.dataType "uuid"

end Column

/-- A table with its columns in order. -/
structure Table where
  /-- The name as the database spells it. -/
  name : String
  columns : List Column
  deriving DecidableEq, Repr

namespace Table

def key (t : Table) : String := Text.lower t.name

def find? (t : Table) (key : String) : Option Column := t.columns.find? (·.key == key)

/-- The column of that name in any case. -/
def column (t : Table) (name : String) : Outcome Column :=
  match t.find? (Text.lower name) with
  | some c => .ok c
  | none => .error (.columnNotFound t.name name)

/-- The line logged when a column is found under another spelling. -/
def spellingNotice (t : Table) (name : String) (c : Column) : List LogLine :=
  if c.name == name then []
  else [⟨.warn, s!"Column {t.name}.{name} matched by case-insensitive name to {c.name}"⟩]

/-- The column of that name, with the lines logged on the way. -/
def lookup (t : Table) (name : String) : Outcome Column × List LogLine :=
  match t.column name with
  | .ok c => (.ok c, t.spellingNotice name c)
  | .error e => (.error e, [])

def identityIndex? (t : Table) : Option Nat := t.columns.findIdx? (·.isIdentity)

def identity? (t : Table) : Option Column := t.columns.find? (·.isIdentity)

def hasIdentity (t : Table) : Bool := t.identityIndex?.isSome

end Table

/-- The tables of a database in increasing order of their keys. -/
structure Schema where
  tables : List Table := []
  deriving DecidableEq, Repr

namespace Schema

/-- Puts a table in its place, in the stead of one with the same key. -/
def place (t : Table) : List Table → List Table
  | [] => [t]
  | u :: rest =>
    if t.key < u.key then t :: u :: rest
    else if t.key == u.key then t :: rest
    else u :: place t rest

/-- Adds a table, replacing one with the same key. -/
def insert (s : Schema) (t : Table) : Schema := ⟨place t s.tables⟩

def find? (s : Schema) (key : String) : Option Table := s.tables.find? (·.key == key)

def table (s : Schema) (name : String) : Outcome Table :=
  match s.find? (Text.lower name) with
  | some t => .ok t
  | none => .error (.tableNotFound name)

/-- The table that a row belongs to, as the schema has it so far. -/
def tableFor (s : Schema) (row : SchemaRow) : Outcome Table :=
  match s.find? (Text.lower row.table) with
  | none => .ok ⟨row.table, []⟩
  | some t =>
    if t.name == row.table then .ok t
    else .error (.schemaExtraction s!"tables {t.name} and {row.table} differ only by case")

/-- The declared bound of a row, which must not be negative. -/
def boundOf (row : SchemaRow) : Outcome Int :=
  let bound := row.maxChars?.getD 0
  if bound < 0 then
    .error (.schemaExtraction s!"negative bound {bound} for {row.table}.{row.column}")
  else .ok bound

/-- Adds the column that a row describes. -/
def addRow (s : Schema) (row : SchemaRow) : Outcome Schema :=
  if row.table.isEmpty || row.column.isEmpty then
    .error (.schemaExtraction ("empty table or column name in row " ++ row.diagnostic))
  else
    match boundOf row with
    | .error e => .error e
    | .ok bound =>
      match s.tableFor row with
      | .error e => .error e
      | .ok t =>
        let c : Column := ⟨row.column, row.dataType, bound⟩
        if t.columns.any (·.key == c.key) then
          .error (.schemaExtraction s!"duplicate column {c.name} in table {t.name}")
        else .ok (s.insert ⟨t.name, t.columns ++ [c]⟩)

/-- Adds the columns of rows in order, up to the first that is refused. -/
def addRows (s : Schema) : List SchemaRow → Outcome Schema
  | [] => .ok s
  | row :: rows =>
    match s.addRow row with
    | .error e => .error e
    | .ok s => addRows s rows

/-- The schema that rows describe. -/
def ofRows (rows : List SchemaRow) : Outcome Schema := addRows {} rows

end Schema

end RowSync
