import RowSync.Sync.RowFlow
import RowSync.Sync.SchemaPair

/-!
Migration: source rows that the destination lacks are copied, table by table. Rows are told apart
by their identity where both tables have one, and by all of their values otherwise.
-/

set_option autoImplicit false

namespace RowSync

/-- How rows of a table are matched with the destination. -/
inductive Strategy
  | identity
  | fullRow
  deriving DecidableEq, Repr

def Strategy.name : Strategy → String
  | .identity => "Identity"
  | .fullRow => "FullRow"

def TablePlan.strategy (plan : TablePlan) : Strategy :=
  if plan.hasIdentity then .identity else .fullRow

/-- What became of the rows that were to be inserted. -/
structure Tally where
  inserted : Nat := 0
  duplicate : Nat := 0
  failed : Nat := 0
  deriving DecidableEq, Repr

structure TableMigration where
  table : String
  strategy : Strategy
  tally : Tally
  deriving DecidableEq, Repr

/-- What a migration did, in the order of the tables. -/
structure Migration where
  tables : List TableMigration
  deriving DecidableEq, Repr

namespace Migration

variable {σ τ : Type}

/-- Rows inserted into all tables. -/
def rowsInserted (m : Migration) : Nat :=
  (m.tables.map (·.tally.inserted)).foldr (· + ·) 0

/-- Rows refused by all tables, duplicates aside. -/
def rowsFailed (m : Migration) : Nat :=
  (m.tables.map (·.tally.failed)).foldr (· + ·) 0

/-- Inserts a row; a statement that changes nothing is a failure. -/
def insert (sides : Sides σ τ) (plan : TablePlan) (row : Row) : Run σ τ Unit := do
  let affected ← Run.onTarget (sides.target.execute plan.insertSql row)
  if affected == 0 then throw (.transfer plan.target.name "no rows affected by insert")

/-- Counts an inserted row and reports every full interval. -/
def countInserted (options : MigrationOptions) (table : String) (tally : Tally) :
    Run σ τ Tally := do
  let tally := { tally with inserted := tally.inserted + 1 }
  if 0 < options.progressInterval && tally.inserted % options.progressInterval == 0 then
    Run.notify (.progress table tally.inserted)
  pure tally

/-- Counts a row whose key is taken. -/
def countDuplicate (plan : TablePlan) (row : Row) (tally : Tally) : Run σ τ Tally := do
  match plan.rowId? row with
  | some id => Run.log .debug s!"{plan.source.name}: id {id} already present"
  | none => pure ()
  pure { tally with duplicate := tally.duplicate + 1 }

/-- Counts a row that was refused, with a warning at the first. -/
def countFailed (plan : TablePlan) (failure : Failure) (tally : Tally) : Run σ τ Tally := do
  let table := plan.source.name
  Run.log .error s!"failed to insert into {table}: {failure.message} ({plan.insertSql})"
  let tally := { tally with failed := tally.failed + 1 }
  if tally.failed == 1 then
    Run.log .warn s!"{table}: continuing past failed inserts, see errors above"
  pure tally

/-- Inserts a row and counts what became of it; no outcome stops the run. -/
def insertCounted (sides : Sides σ τ) (options : Options) (plan : TablePlan) (tally : Tally)
    (row : Row) : Run σ τ Tally := do
  match ← (insert sides plan row).attempt with
  | .ok () => countInserted options.migration plan.source.name tally
  | .error failure =>
    if failure.isDuplicateKey then countDuplicate plan row tally
    else countFailed plan failure tally

/-- Handles a source row: with `probing`, a row that the destination has is passed over. -/
def copyRow (sides : Sides σ τ) (options : Options) (plan : TablePlan) (probing : Bool)
    (tally : Tally) (row : Row) : Run σ τ Tally := do
  let row := TablePlan.normalizeRow sides.target.dialect row
  let present ← if probing then RowFlow.probe sides plan options.diagnostics row else pure false
  if present then pure tally else insertCounted sides options plan tally row

def copyRows (sides : Sides σ τ) (options : Options) (plan : TablePlan) (probing : Bool)
    (sql : String) (parameters : List Value) : Run σ τ Tally := do
  let stream ← RowFlow.openStream sides options sql parameters
  if probing then Run.logSql options.diagnostics plan.existsSql
  let (count, tally) ← RowFlow.consume plan (copyRow sides options plan probing) {} stream
  Run.log .debug s!"{plan.source.name}: read {count} source rows"
  pure tally

/-- The first values of rows, where they have one. -/
def firstCells (rows : List Row) : List Value := rows.filterMap (·.head?)

/-- The destination's identities are few enough, and some, to be sent to the source. -/
def filtersSource (options : MigrationOptions) (existing : List Value) : Bool :=
  !existing.isEmpty && existing.length < options.maxInClauseIds

/-- The statement that reads the source for a table with identities, and its parameters. -/
def sourceStatement (sides : Sides σ τ) (options : MigrationOptions) (plan : TablePlan)
    (existing : List Value) : String × List Value :=
  if filtersSource options existing then
    (plan.excludingSql sides.source.dialect existing.length, existing)
  else (plan.selectSql, [])

/-- The line logged when the destination has too many identities to send. -/
def overLimitLine (plan : TablePlan) (existing : List Value) : String :=
  s!"{plan.source.name}: {existing.length} destination ids exceed the NOT IN limit, " ++
    "reading every source row"

/-- Copies the rows whose identity the destination lacks. -/
def copyByIdentity (sides : Sides σ τ) (options : Options) (plan : TablePlan) : Run σ τ Tally := do
  let idsSql := plan.targetIdsSql sides.target.dialect
  Run.logSql options.diagnostics idsSql
  let rows ← (Run.onTarget (sides.target.query idsSql [])).within "failed to select id from rows"
  let existing := firstCells rows
  if !existing.isEmpty && !filtersSource options.migration existing then
    Run.log .debug (overLimitLine plan existing)
  let (sql, parameters) := sourceStatement sides options.migration plan existing
  copyRows sides options plan false sql parameters

def countSource (sides : Sides σ τ) (plan : TablePlan) : Run σ τ Int := do
  let rows ← Run.onSource (sides.source.query (countStatement sides.source.dialect plan.source) [])
  Run.ofOutcome (RowFlow.countIn plan.source.name rows)

/-- Refuses a table with more source rows than are compared column by column. -/
def checkLimit (sides : Sides σ τ) (options : MigrationOptions) (plan : TablePlan) :
    Run σ τ Unit := do
  match options.fullRowProbeLimit? with
  | none => pure ()
  | some limit =>
    let rows ← countSource sides plan
    if (limit : Int) < rows then throw (.fullRowLimitExceeded plan.source.name rows limit)

/-- Copies the rows that the destination has no equal of. -/
def copyByFullRow (sides : Sides σ τ) (options : Options) (plan : TablePlan) : Run σ τ Tally := do
  checkLimit sides options.migration plan
  copyRows sides options plan true plan.selectSql []

def copyTable (sides : Sides σ τ) (options : Options) (plan : TablePlan) : Run σ τ Tally :=
  match plan.strategy with
  | .identity => (copyByIdentity sides options plan).within "failed migrating table with ids"
  | .fullRow => (copyByFullRow sides options plan).within "failed migrating table without ids"

def truncate (sides : Sides σ τ) (table : String) : Run σ τ Unit := do
  Run.notify (.willTruncate table)
  (Run.onTarget (sides.target.truncate table)).within s!"failed truncating {table}"
  Run.notify (.truncated table)

/-- The line logged when not every row was inserted. -/
def tallyLine (table : String) (tally : Tally) : String :=
  s!"{table}: {tally.inserted} inserted, {tally.duplicate} duplicate, {tally.failed} failed"

def migrateTable (sides : Sides σ τ) (options : Options) (source target : Table) :
    Run σ τ TableMigration := do
  if options.migration.truncateFirst then truncate sides target.name
  let plan ← Run.reported (TablePlan.make sides.source.dialect sides.target.dialect source target)
  Run.logSql options.diagnostics plan.insertSql
  Run.notify (.started source.name)
  Run.log .debug s!"Migrating {source.name} with {plan.strategy.name} strategy"
  let tally ← copyTable sides options plan
  if 0 < tally.duplicate || 0 < tally.failed then Run.log .info (tallyLine source.name tally)
  Run.notify (.finished source.name tally.inserted)
  pure ⟨source.name, plan.strategy, tally⟩

def migrateTables (sides : Sides σ τ) (options : Options) (pair : SchemaPair) :
    Run σ τ (List TableMigration) :=
  Run.mapList (fun source => do
    let target ← Run.ofOutcome (pair.target.table source.key)
    migrateTable sides options source target) pair.source.tables

/-- Restores the checks between tables; a failure is reported and has no other effect. -/
def restoreConstraints (sides : Sides σ τ) : Run σ τ Unit := do
  Run.notify .willEnableConstraints
  match ← (Run.onTarget sides.target.enableConstraints).attempt with
  | .ok () => Run.notify .enabledConstraints
  | .error failure =>
    Run.log .error s!"Failed to re-enable constraints: {failure.message}"
    Run.notify (.enableConstraintsFailed failure.message)

def suspendConstraints (sides : Sides σ τ) : Run σ τ Unit := do
  Run.notify .willDisableConstraints
  (Run.onTarget sides.target.disableConstraints).within "failed to disable constraints"
  Run.notify .didDisableConstraints

/-- The line logged at the end; the time taken follows it. -/
def doneLine (m : Migration) : String :=
  s!"Migrated {m.tables.length} tables, {m.rowsInserted} rows inserted"

/-- Migrates every table, with the checks between tables suspended meanwhile. -/
def run (sides : Sides σ τ) (options : Options) : Run σ τ Migration := do
  let pair ← SchemaPair.load sides options.diagnostics
  suspendConstraints sides
  let outcome ← (migrateTables sides options pair).attempt
  restoreConstraints sides
  let tables ← Run.ofOutcome outcome
  let migration : Migration := ⟨tables⟩
  Run.log .info migration.doneLine
  pure migration

end Migration

end RowSync
