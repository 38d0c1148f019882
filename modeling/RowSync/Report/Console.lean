import RowSync.Report.Documents

/-!
What the program writes to its standard output: a line for each notification of a run, then a
summary, or the result as a JSON document alone.
-/

set_option autoImplicit false

namespace RowSync

def line (text : String) : String := text ++ "\n"

/-- A notification as it is written; one that something has begun leaves its line open. -/
def Event.text : Event → String
  | .willDisableConstraints => "Disabling constraints..."
  | .didDisableConstraints => line "OK"
  | .willEnableConstraints => "Enabling constraints..."
  | .enabledConstraints => line "OK"
  | .enableConstraintsFailed message => line s!"FAILED: {message}"
  | .willTruncate table => s!"Truncating {table}..."
  | .truncated _ => line "OK"
  | .started table => line s!"Migrating {table}..."
  | .progress table n => line s!"  {table}: {n} rows inserted so far"
  | .finished table n => line s!"  {table}: done, {n} rows inserted"
  | .verifyStarted table => s!"Verifying table {table}..."
  | .verifyFinished _ missing ids =>
    if missing == 0 then line "OK"
    else
      line s!"\n\tFAILED: {missing} rows missing" ++
        if ids.isEmpty then "" else line ("\tMissing IDs: " ++ ",".intercalate ids)
  | .verifyFailed _ message => line s!"\n\tFAILED: {message}"

def eventsText (events : List Event) : String := String.join (events.map Event.text)

def Migration.summary (timing : Timing) (m : Migration) : String :=
  line "\nMigration completed!" ++ line ("  Duration: " ++ timing.secondsText ++ "s") ++
    line s!"  Tables: {m.tables.length}" ++ line s!"  Rows inserted: {m.rowsInserted}" ++
    if m.rowsFailed == 0 then "" else line s!"  Rows failed: {m.rowsFailed}"

def Verification.summary (v : Verification) : String :=
  line "\nVerification Summary:" ++ line s!"  Tables checked: {v.tables.length}" ++
    line s!"  Missing rows: {v.missingRows}" ++
    line ("  Status: " ++ if v.inSync then "IN SYNC" else "DIFFERS")

/-- What a validation found about a table, in one line. -/
def TableValidation.description (v : TableValidation) : String :=
  if !v.rowIds.isEmpty then
    s!"found {v.rowCount} incompatible rows in {v.table} with IDs [" ++ " ".intercalate v.rowIds ++
      "]"
  else if 0 < v.rowCount then
    s!"found {v.rowCount} incompatible rows in {v.table} (which has no 'id' column)"
  else s!"{v.table} OK"

def validationSummary (tables : List TableValidation) : String :=
  String.join (tables.map fun v => line v.description)

end RowSync
