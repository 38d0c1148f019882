import RowSync.Config.Encryption
import RowSync.Config.Options
import RowSync.Text.Quoted

/-!
The configuration of a run: two databases and the options, and the rules that a configuration has
to meet.
-/

set_option autoImplicit false

namespace RowSync

/-- How a database is reached and what is read of it. -/
structure DatabaseSettings where
  flavor : Flavor
  database : String
  username : String
  password : String := ""
  /-- A host name, or the directory of a socket for PostgreSQL. -/
  host : String
  port? : Option Nat := none
  encryption : String := "disable"
  /-- Times are rounded rather than cut when they are written to MySQL. -/
  roundTime : Bool := false
  /-- The part of a PostgreSQL database that is read. -/
  schema : String := "public"
  /-- Tables that are left out. -/
  excludedTables : List String := ["schema_migrations"]
  deriving DecidableEq, Repr

structure Configuration where
  source : DatabaseSettings
  target : DatabaseSettings
  options : Options := {}
  deriving DecidableEq, Repr

namespace DatabaseSettings

def port (s : DatabaseSettings) : Nat := s.port?.getD s.flavor.defaultPort

/-- Where the database is, without credentials. -/
def endpoint (s : DatabaseSettings) : String :=
  s!"{s.flavor.name}://{s.host}:{s.port}/{s.database}"

/-- The flavor as diagnostics show it. -/
def flavorDiagnostic : Flavor → String
  | .postgres => "Postgres"
  | .mysql => "Mysql"

/-- The settings as diagnostics show them; the password is not shown. -/
def diagnostic (s : DatabaseSettings) : String :=
  let port :=
    match s.port? with
    | some n => s!"Some({n})"
    | none => "None"
  let fields := [("flavor", flavorDiagnostic s.flavor), ("database", Text.quoted s.database),
    ("username", Text.quoted s.username), ("password", Text.quoted "[REDACTED]"),
    ("host", Text.quoted s.host), ("port", port), ("ssl_mode", Text.quoted s.encryption),
    ("round_time", if s.roundTime then "true" else "false"), ("schema", Text.quoted s.schema),
    ("exclude_tables", "[" ++ ", ".intercalate (s.excludedTables.map Text.quoted) ++ "]")]
  "DatabaseConfig \x7b " ++ ", ".intercalate (fields.map fun f => f.1 ++ ": " ++ f.2) ++ " \x7d"

/-- A failure for a setting of one side. -/
def refuse (side message : String) : Outcome Unit := .error (.config (side ++ message))

def checkFlavor (side : String) (s : DatabaseSettings) : Outcome Unit :=
  match s.flavor with
  | .postgres => do
    let _ ← EncryptionMode.read s.encryption
    if s.schema.isEmpty then refuse side ".schema is required" else .ok ()
  | .mysql =>
    if MysqlEncryption.knownSettings.contains (Text.lower s.encryption) then .ok ()
    else
      .error (.config (s!"Invalid {side}.ssl_mode '{s.encryption}'. Valid values: " ++
        ", ".intercalate MysqlEncryption.knownSettings))

/-- Checks the settings of one side; the first rule that is broken counts. -/
def check (side : String) (s : DatabaseSettings) : Outcome Unit :=
  if s.host.isEmpty then refuse side ".host is required"
  else if s.database.isEmpty then refuse side ".database is required"
  else if s.username.isEmpty then refuse side ".username is required"
  else if s.port? == some 0 then refuse side ".port must not be 0"
  else checkFlavor side s

end DatabaseSettings

namespace Configuration

def sameDatabase (c : Configuration) : Bool :=
  c.source.flavor == c.target.flavor && c.source.host == c.target.host &&
    c.source.port == c.target.port && c.source.database == c.target.database

/-- The greatest number of identities that fit a statement. -/
def maxInClauseIds : Nat := 65535

/-- Checks the options; the first rule that is broken counts. -/
def checkOptions (o : Options) : Outcome Unit :=
  if o.migration.progressInterval == 0 then
    .error (.config "migration.progress_interval must be at least 1")
  else if o.migration.maxInClauseIds < 1 || maxInClauseIds < o.migration.maxInClauseIds then
    .error (.config ("migration.max_in_clause_ids must be between 1 and 65535, got " ++
      toString o.migration.maxInClauseIds))
  else if o.migration.fullRowProbeLimit? == some 0 then
    .error (.config "migration.full_row_probe_limit must be at least 1 (use null to disable)")
  else if o.migration.readBatchSize == 0 then
    .error (.config "migration.read_batch_size must be at least 1")
  else if o.diagnostics.stopAfterSchemaDump && !o.diagnostics.dumpSchemaDiff then
    .error (.config "diagnostics.stop_after_schema_dump requires diagnostics.dump_schema_diff")
  else .ok ()

/-- Checks the configuration; the first rule that is broken counts. -/
def check (c : Configuration) : Outcome Unit := do
  c.source.check "source"
  c.target.check "dest"
  if c.sameDatabase then .error (.config "source and dest cannot be the same database")
  else checkOptions c.options

end Configuration

end RowSync
