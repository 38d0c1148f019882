import RowSync.Database.Dialect
import RowSync.Schema.Basic

/-!
A source table paired with its destination: the column each source column goes to, and every
statement that a run sends for the pair.
-/

set_option autoImplicit false

namespace RowSync

/-- A pair of tables with its statements. -/
structure TablePlan where
  source : Table
  target : Table
  /-- The destination column of each source column, in source order. -/
  targetColumns : List Column
  /-- Reads every source row. -/
  selectSql : String
  /-- Tells whether a row equal to the parameters is in the destination. -/
  existsSql : String
  /-- Puts the parameters into the destination as a row. -/
  insertSql : String
  deriving DecidableEq, Repr

namespace TablePlan

def commaSeparated (parts : List String) : String := ", ".intercalate parts

/-- The destination columns of source columns and the lines logged, up to the first without one. -/
def matchColumns (target : Table) : List Column → Outcome (List Column) × List LogLine
  | [] => (.ok [], [])
  | c :: rest =>
    match target.lookup c.name with
    | (.error e, logs) => (.error e, logs)
    | (.ok d, logs) =>
      let (columns, more) := matchColumns target rest
      (columns.map (d :: ·), logs ++ more)

def selectStatement (db : Dialect) (t : Table) : String :=
  "SELECT " ++ commaSeparated (t.columns.map fun c => db.selectExpression c.name c.dataType) ++
    " FROM " ++ db.quote t.name

/-- The comparisons of destination columns with parameters, from an index on. -/
def comparisons (db : Dialect) (index : Nat) : List (Column × Column) → List String
  | [] => []
  | (c, d) :: rest => db.comparison index d.name c.dataType :: comparisons db (index + 1) rest

def existsStatement (db : Dialect) (target : Table) (pairs : List (Column × Column)) : String :=
  "SELECT EXISTS (SELECT 1 FROM " ++ db.quote target.name ++ " WHERE " ++
    " AND ".intercalate (comparisons db 0 pairs) ++ ")"

/-- The places of the values of source columns, from an index on. -/
def valueMarkers (db : Dialect) (index : Nat) : List Column → List String
  | [] => []
  | c :: rest =>
    (if c.isUuid then db.uuidMarker index else db.marker index) :: valueMarkers db (index + 1) rest

def insertStatement (db : Dialect) (target : Table) (pairs : List (Column × Column)) : String :=
  "INSERT INTO " ++ db.quote target.name ++ " (" ++
    commaSeparated (pairs.map fun pair => db.quote pair.2.name) ++ ") VALUES (" ++
    commaSeparated (valueMarkers db 0 (pairs.map (·.1))) ++ ")"

/-- The plan of a pair of tables, with the lines logged. -/
def make (sourceDb targetDb : Dialect) (source target : Table) :
    Outcome TablePlan × List LogLine :=
  let (columns, logs) := matchColumns target source.columns
  let plan := columns.map fun columns =>
    let pairs := source.columns.zip columns
    { source, target
      targetColumns := columns
      selectSql := selectStatement sourceDb source
      existsSql := existsStatement targetDb target pairs
      insertSql := insertStatement targetDb target pairs }
  (plan, logs)

def hasIdentity (plan : TablePlan) : Bool := plan.source.hasIdentity && plan.target.hasIdentity

/-- The spelling of a table's identity column. -/
def identityName (t : Table) : String :=
  match t.identity? with
  | some c => c.name
  | none => Column.identityKey

/-- The statement that reads the identities of the destination. -/
def targetIdsSql (plan : TablePlan) (targetDb : Dialect) : String :=
  "SELECT " ++ targetDb.quote (identityName plan.target) ++ " FROM " ++
    targetDb.quote plan.target.name

/-- The statement that reads the source rows whose identity is not among that many parameters. -/
def excludingSql (plan : TablePlan) (sourceDb : Dialect) (excluded : Nat) : String :=
  if excluded == 0 then plan.selectSql
  else
    plan.selectSql ++ " WHERE " ++ sourceDb.quote (identityName plan.source) ++ " NOT IN (" ++
      commaSeparated ((List.range excluded).map sourceDb.marker) ++ ")"

def rowId? (plan : TablePlan) (row : Row) : Option String :=
  plan.source.identityIndex?.bind fun index => row[index]?.map Value.idText

/-- A source row with its times as the destination stores them. -/
def normalizeRow (targetDb : Dialect) (row : Row) : Row :=
  row.map (Value.mapTime targetDb.normalize)

end TablePlan

def countStatement (db : Dialect) (t : Table) : String := "SELECT COUNT(*) FROM " ++ db.quote t.name

/-- The condition that some value is longer than the bound of its destination. -/
def lengthPredicate (db : Dialect) (pairs : List (Column × Column)) : String :=
  " OR ".intercalate
    (pairs.map fun pair => s!"LENGTH({db.quote pair.1.name}) > {pair.2.maxChars}")

end RowSync
