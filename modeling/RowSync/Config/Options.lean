/-!
The options that runs read: how rows are copied, and what is logged.
-/

set_option autoImplicit false

namespace RowSync

/-- The families of database servers. -/
inductive Flavor
  | postgres
  | mysql
  deriving DecidableEq, Repr

namespace Flavor

def name : Flavor → String
  | postgres => "postgres"
  | mysql => "mysql"

/-- The port at which servers of the flavor listen unless told otherwise. -/
def defaultPort : Flavor → Nat
  | postgres => 5432
  | mysql => 3306

end Flavor

/-- How rows are copied. -/
structure MigrationOptions where
  /-- Empty each destination table before copying. -/
  truncateFirst : Bool := false
  /-- Inserted rows between two progress notifications; zero means none. -/
  progressInterval : Nat := 10000
  /-- Fewer destination ids than this are sent to the source as a filter. -/
  maxInClauseIds : Nat := 65535
  /-- The most source rows that are compared column by column; nothing means no limit. -/
  fullRowProbeLimit? : Option Nat := some 100000
  /-- Source rows read at a time. -/
  readBatchSize : Nat := 1000
  deriving DecidableEq, Repr

structure DiagnosticOptions where
  /-- Log every generated statement. -/
  logSql : Bool := false
  /-- Log the values of the rows looked at. -/
  logRowValues : Bool := false
  /-- Log the comparison of the schemas before the run. -/
  dumpSchemaDiff : Bool := false
  /-- Stop after that comparison. -/
  stopAfterSchemaDump : Bool := false
  deriving DecidableEq, Repr

structure Options where
  migration : MigrationOptions := {}
  diagnostics : DiagnosticOptions := {}
  deriving DecidableEq, Repr

end RowSync
