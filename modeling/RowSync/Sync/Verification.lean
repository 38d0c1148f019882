import RowSync.Sync.RowFlow
import RowSync.Sync.SchemaPair

/-!
Verification: every source row is looked for in the destination by all of its values, and those
without an equal are counted. Nothing is written.
-/

set_option autoImplicit false

namespace RowSync

/-- The source rows of a table that the destination has no equal of. -/
structure MissingRows where
  count : Nat := 0
  /-- Their identities, where the source table has one. -/
  ids : List String := []
  deriving DecidableEq, Repr

structure TableVerification where
  table : String
  missing : MissingRows
  /-- Why the table could not be verified. -/
  error? : Option String
  deriving DecidableEq, Repr

/-- What a verification found, in the order of the tables. -/
structure Verification where
  tables : List TableVerification
  deriving DecidableEq, Repr

namespace Verification

variable {σ τ : Type}

/-- Every table was verified and lacks nothing. -/
def inSync (v : Verification) : Bool :=
  v.tables.all fun t => t.error?.isNone && t.missing.count == 0

def missingRows (v : Verification) : Nat :=
  (v.tables.map (·.missing.count)).foldr (· + ·) 0

/-- Looks for a source row and counts it when it is missing. -/
def checkRow (sides : Sides σ τ) (options : Options) (plan : TablePlan) (missing : MissingRows)
    (row : Row) : Run σ τ MissingRows := do
  let row := TablePlan.normalizeRow sides.target.dialect row
  let present ← RowFlow.probe sides plan options.diagnostics row
  if present then pure missing
  else pure ⟨missing.count + 1, missing.ids ++ (plan.rowId? row).toList⟩

/-- The number of source rows, and those that are missing. -/
def scan (sides : Sides σ τ) (options : Options) (plan : TablePlan) :
    Run σ τ (Nat × MissingRows) := do
  let stream ← RowFlow.openStream sides options plan.selectSql []
  Run.logSql options.diagnostics plan.existsSql
  RowFlow.consume plan (checkRow sides options plan) {} stream

/-- The line logged for a table with more source rows than a migration compares. -/
def overLimitLine (table : String) (rows limit : Nat) : String :=
  s!"{table} has {rows} rows, above the full-row probe limit of {limit}"

/-- Warns of a table with more source rows than a migration compares. -/
def warnOverLimit (options : MigrationOptions) (table : String) (rows : Nat) : Run σ τ Unit :=
  match options.fullRowProbeLimit? with
  | none => pure ()
  | some limit =>
    if limit < rows then Run.log .warn (overLimitLine table rows limit) else pure ()

def verifyTable (sides : Sides σ τ) (options : Options) (source target : Table) :
    Run σ τ MissingRows := do
  let plan ← Run.reported (TablePlan.make sides.source.dialect sides.target.dialect source target)
  let (rows, missing) ← scan sides options plan
  warnOverLimit options.migration source.name rows
  pure missing

/-- Verifies a table; one that cannot be verified is reported and passed over. -/
def verifyReported (sides : Sides σ τ) (options : Options) (source target : Table) :
    Run σ τ TableVerification := do
  let table := source.name
  Run.notify (.verifyStarted table)
  match ← (verifyTable sides options source target).attempt with
  | .ok missing =>
    Run.notify (.verifyFinished table missing.count missing.ids)
    pure ⟨table, missing, none⟩
  | .error failure =>
    Run.log .warn s!"Failed to verify {table}: {failure.message}"
    Run.notify (.verifyFailed table failure.message)
    pure ⟨table, {}, some failure.message⟩

def doneLine (v : Verification) : String :=
  s!"Verified {v.tables.length} tables, {v.missingRows} missing rows"

/-- Verifies every table; a source table without a counterpart ends the run. -/
def run (sides : Sides σ τ) (options : Options) : Run σ τ Verification := do
  let pair ← SchemaPair.load sides options.diagnostics
  let tables ← Run.mapList (fun source => do
    let target ← Run.ofOutcome (pair.target.table source.key)
    verifyReported sides options source target) pair.source.tables
  let verification : Verification := ⟨tables⟩
  Run.log .info verification.doneLine
  pure verification

end Verification

end RowSync
