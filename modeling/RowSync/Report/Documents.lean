import RowSync.Config.Configuration
import RowSync.Json.Basic
import RowSync.Schema.Comparison
import RowSync.Sync.Migration
import RowSync.Sync.Validation
import RowSync.Sync.Verification

/-!
Results, schemas and settings as JSON documents.
-/

set_option autoImplicit false

namespace RowSync

namespace JsonTree

def natural (n : Nat) : JsonTree := integer n

def texts (items : List String) : JsonTree := list (items.map text)

/-- What there may be, or null. -/
def optional {α : Type} (write : α → JsonTree) : Option α → JsonTree
  | some a => write a
  | none => null

end JsonTree

open JsonTree

/-- When a run took place and how long it took. -/
structure Timing where
  started : DateTime
  completed : DateTime
  nanoseconds : Nat

namespace Timing

def seconds (t : Timing) : Binary64 := Binary.ofRatio .double false t.nanoseconds nanosPerSecond

/-- A point in time, with the mark of UTC. -/
def instantText (t : DateTime) : String := t.text "T" ++ "Z"

/-- The seconds that the run took, with two places. -/
def secondsText (t : Timing) : String :=
  let hundredths := (t.nanoseconds + 5000000) / 10000000
  s!"{hundredths / 100}." ++ padded 2 (hundredths % 100)

end Timing

def LogLine.document (l : LogLine) : JsonTree :=
  record [("level", .text l.level.name), ("fields", record [("message", .text l.text)])]

def Strategy.documentName : Strategy → String
  | .identity => "identity"
  | .fullRow => "full_row"

def TableMigration.document (t : TableMigration) : JsonTree :=
  record [("table_name", text t.table), ("strategy", text t.strategy.documentName),
    ("rows_inserted", natural t.tally.inserted), ("rows_duplicate", natural t.tally.duplicate),
    ("rows_failed", natural t.tally.failed)]

def Migration.document (timing : Timing) (m : Migration) : JsonTree :=
  record [("started_at", text (Timing.instantText timing.started)),
    ("completed_at", text (Timing.instantText timing.completed)),
    ("duration_seconds", float timing.seconds), ("rows_inserted", natural m.rowsInserted),
    ("tables", list (m.tables.map TableMigration.document))]

def TableVerification.document (t : TableVerification) : JsonTree :=
  record ([("table_name", text t.table), ("missing_rows", natural t.missing.count),
    ("missing_ids", texts t.missing.ids)] ++
    (t.error?.map fun message => ("error", text message)).toList)

def Verification.document (timing : Timing) (v : Verification) : JsonTree :=
  record [("duration_seconds", float timing.seconds),
    ("tables", list (v.tables.map TableVerification.document))]

def TableValidation.document (v : TableValidation) : JsonTree :=
  record [("table_name", text v.table), ("incompatible_columns", texts v.columns),
    ("incompatible_row_ids", texts v.rowIds), ("incompatible_row_count", integer v.rowCount)]

def Column.document (c : Column) : JsonTree :=
  record [("actual_name", text c.name), ("normalized_name", text c.key),
    ("data_type", text c.dataType), ("max_chars", integer c.maxChars)]

def Table.document (t : Table) : JsonTree :=
  record [("actual_name", text t.name), ("normalized_name", text t.key),
    ("columns", list (t.columns.map Column.document))]

/-- A schema, its tables by their keys. -/
def Schema.document (s : Schema) : JsonTree :=
  record [("tables", record (s.tables.map fun t => (t.key, t.document)))]

/-- A verdict on a pair of columns, as members of a document. -/
def Verdict.members : Verdict → List (String × JsonTree)
  | .safe => [("verdict", text "safe")]
  | .unsafeBecause reason => [("verdict", text "unsafe"), ("reason", text reason)]
  | .needsReview => [("verdict", text "needs_review")]

def ColumnComparison.document (c : ColumnComparison) : JsonTree :=
  record ([("column", text c.source.name), ("source_type", text c.source.dataType),
    ("source_max_chars", integer c.source.maxChars), ("target_type", text c.target.dataType),
    ("target_max_chars", integer c.target.maxChars), ("compatible", bool c.isCompatible)] ++
    c.verdict.members)

def TableComparison.document (t : TableComparison) : JsonTree :=
  record [("source_table", text t.source), ("target_table", optional text t.target?),
    ("columns", list (t.columns.map ColumnComparison.document)),
    ("missing_in_target", texts t.missingInTarget), ("missing_in_source", texts t.missingInSource)]

def SchemaComparison.document (c : SchemaComparison) : JsonTree :=
  record [("tables", list (c.tables.map TableComparison.document)),
    ("extra_target_tables", texts c.extraTargetTables)]

/-- How a database is reached, the password included. -/
def DatabaseSettings.document (s : DatabaseSettings) : JsonTree :=
  record [("flavor", text s.flavor.name), ("database", text s.database),
    ("username", text s.username), ("password", text s.password), ("host", text s.host),
    ("port", optional natural s.port?), ("ssl_mode", text s.encryption),
    ("round_time", bool s.roundTime), ("schema", text s.schema),
    ("exclude_tables", texts s.excludedTables)]

def MigrationOptions.document (o : MigrationOptions) : JsonTree :=
  record [("truncate_first", bool o.truncateFirst),
    ("progress_interval", natural o.progressInterval),
    ("max_in_clause_ids", natural o.maxInClauseIds),
    ("full_row_probe_limit", optional natural o.fullRowProbeLimit?),
    ("read_batch_size", natural o.readBatchSize)]

def DiagnosticOptions.document (d : DiagnosticOptions) : JsonTree :=
  record [("log_sql", bool d.logSql), ("log_row_values", bool d.logRowValues),
    ("dump_schema_diff", bool d.dumpSchemaDiff),
    ("stop_after_schema_dump", bool d.stopAfterSchemaDump)]

end RowSync
