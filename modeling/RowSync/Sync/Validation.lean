import RowSync.Sync.Plan
import RowSync.Sync.RowFlow
import RowSync.Sync.SchemaPair

/-!
Validation: source rows with values longer than their destination column allows are found by the
source itself. Only tables with columns whose bounds do not fit are asked about.
-/

set_option autoImplicit false

namespace RowSync

/-- The source rows of a table that do not fit the destination. -/
structure TableValidation where
  table : String
  /-- Destination columns whose bound may be exceeded. -/
  columns : List String := []
  /-- Identities of the rows, where both tables have one. -/
  rowIds : List String := []
  rowCount : Int := 0
  deriving DecidableEq, Repr

/-- No row is known not to fit. -/
def TableValidation.isClean (v : TableValidation) : Bool := v.rowCount == 0

namespace Validation

variable {σ τ : Type}

/-- The statement that reads an identity column of the rows that do not fit. -/
def idsStatement (db : Dialect) (source : Table) (id : Column) (condition : String) : String :=
  s!"SELECT {db.quote id.name} FROM {db.quote source.name} WHERE {condition}"

/-- The statement that counts the rows that do not fit. -/
def countingStatement (db : Dialect) (source : Table) (condition : String) : String :=
  countStatement db source ++ " WHERE " ++ condition

/-- The identities of the rows of an answer. -/
def idsIn (rows : List Row) : List String := rows.filterMap fun row => row.head?.map Value.idText

def listRows (sides : Sides σ τ) (options : DiagnosticOptions) (source : Table) (id : Column)
    (condition : String) (found : TableValidation) : Run σ τ TableValidation := do
  let sql := idsStatement sides.source.dialect source id condition
  Run.logSql options sql
  let rows ← (Run.onSource (sides.source.query sql [])).within "failed getting incompatible row ids"
  let ids := idsIn rows
  pure { found with rowIds := ids, rowCount := ids.length }

def countRows (sides : Sides σ τ) (options : DiagnosticOptions) (source : Table)
    (condition : String) (found : TableValidation) : Run σ τ TableValidation := do
  let sql := countingStatement sides.source.dialect source condition
  Run.logSql options sql
  let rows ← (Run.onSource (sides.source.query sql [])).within
    "failed getting incompatible row count"
  let count ← Run.ofOutcome (RowFlow.countIn source.name rows)
  pure { found with rowCount := count }

/-- The line logged for a table with rows that do not fit. -/
def exceededLine (v : TableValidation) : String :=
  s!"{v.table}: {v.rowCount} rows exceed destination bounds on " ++ ", ".intercalate v.columns

/-- Finds the rows of a table whose values exceed the bounds of the pairs. -/
def findRows (sides : Sides σ τ) (options : DiagnosticOptions) (source target : Table)
    (pairs : List ColumnPair) : Run σ τ TableValidation := do
  let found : TableValidation := { table := source.name, columns := pairs.map (·.target.name) }
  let condition :=
    lengthPredicate sides.source.dialect (pairs.map fun pair => (pair.source, pair.target))
  let found ←
    match source.identity?, target.hasIdentity with
    | some id, true => listRows sides options source id condition found
    | _, _ => countRows sides options source condition found
  unless found.isClean do Run.log .warn (exceededLine found)
  pure found

def validateTable (sides : Sides σ τ) (options : DiagnosticOptions) (source target : Table) :
    Run σ τ TableValidation := do
  let pairs ← Run.reported (incompatibleColumns source target)
  if pairs.isEmpty then
    Run.log .debug s!"{source.name}: all columns compatible"
    pure { table := source.name }
  else findRows sides options source target pairs

/-- The line logged when a table is matched under another spelling. -/
def spellingLine (source target : Table) : String :=
  s!"Source table {source.name} does not exist in the destination schema, " ++
    s!"but found {target.name} instead"

def doneLine (results : List TableValidation) : String :=
  let dirty := (results.filter fun v => !v.isClean).length
  s!"Validated {results.length} tables, {dirty} with incompatible rows"

/-- Validates every table; only the source is asked, apart from the schemas. -/
def run (sides : Sides σ τ) (options : Options) : Run σ τ (List TableValidation) := do
  let pair ← SchemaPair.load sides options.diagnostics
  let results ← Run.mapList (fun source => do
    let target ← (Run.ofOutcome (pair.target.table source.key)).within
      "failed to get table from destination schema"
    unless target.name == source.name do Run.log .warn (spellingLine source target)
    validateTable sides options.diagnostics source target) pair.source.tables
  Run.log .info (doneLine results)
  pure results

end Validation

end RowSync
