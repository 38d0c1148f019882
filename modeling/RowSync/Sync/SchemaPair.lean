import RowSync.Schema.Comparison
import RowSync.Sync.Run

/-!
The schemas of both databases, read at the start of every run, with their comparison in the log
when it is asked for.
-/

set_option autoImplicit false

namespace RowSync

structure SchemaPair where
  source : Schema
  target : Schema

namespace SchemaPair

variable {σ τ : Type}

/-- The line logged when a schema is complete. -/
def builtLine (flavor : Flavor) (schema : Schema) : String :=
  s!"Built {flavor.name} schema with {schema.tables.length} tables"

/-- Reads a schema by a request that lists its columns. -/
def build (rows : Run σ τ (List SchemaRow)) (flavor : Flavor) : Run σ τ Schema := do
  let rows ← rows
  let schema ← Run.ofOutcome (Schema.ofRows rows)
  Run.log .debug (builtLine flavor schema)
  pure schema

/-- Logs the comparison when asked to, and stops there when asked to. -/
def dump (options : DiagnosticOptions) (pair : SchemaPair) : Run σ τ Unit :=
  if options.dumpSchemaDiff then do
    Run.logAll (SchemaComparison.compare pair.source pair.target).lines
    if options.stopAfterSchemaDump then throw .stopRequested
  else pure ()

/-- Reads both schemas, the source first. -/
def load (sides : Sides σ τ) (options : DiagnosticOptions) : Run σ τ SchemaPair := do
  let source ← (build (Run.onSource sides.source.schemaRows) sides.source.dialect.flavor).within
    "failed to build source schema"
  let target ← (build (Run.onTarget sides.target.schemaRows) sides.target.dialect.flavor).within
    "failed to build destination schema"
  let pair := ⟨source, target⟩
  dump options pair
  pure pair

end SchemaPair

end RowSync
