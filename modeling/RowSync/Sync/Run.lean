import RowSync.Config.Options
import RowSync.Database.Basic
import RowSync.Journal
import RowSync.Value.Diagnostic

/-!
Runs: work on a source and a destination database that reports as it goes and may fail at any
point. What was done before a failure stays done.
-/

set_option autoImplicit false

namespace RowSync

/-- The two databases of a run. -/
structure Sides (σ τ : Type) where
  source : Database σ
  target : Database τ

/-- Where a run stands: the states of its databases and its reports. -/
structure RunState (σ τ : Type) where
  source : σ
  target : τ
  journal : Journal := {}

abbrev Run (σ τ α : Type) := ExceptT Failure (StateM (RunState σ τ)) α

namespace Run

variable {σ τ α β : Type}

def report (f : Journal → Journal) : Run σ τ Unit := fun s =>
  (.ok (), { s with journal := f s.journal })

def log (level : LogLevel) (text : String) : Run σ τ Unit := report (·.log level text)

def logAll (lines : List LogLine) : Run σ τ Unit :=
  report fun j => lines.foldl (fun j line => j.log line.level line.text) j

def notify (event : Event) : Run σ τ Unit := report (·.notify event)

def onSource (request : Request σ α) : Run σ τ α := fun s =>
  let (answer, source) := request s.source
  (answer, { s with source })

def onTarget (request : Request τ α) : Run σ τ α := fun s =>
  let (answer, target) := request s.target
  (answer, { s with target })

def ofOutcome (outcome : Outcome α) : Run σ τ α := fun s => (outcome, s)

/-- Writes the lines logged on the way to an outcome, then goes on with the outcome. -/
def reported (result : Outcome α × List LogLine) : Run σ τ α := do
  logAll result.2
  ofOutcome result.1

def within (run : Run σ τ α) (label : String) : Run σ τ α := fun s =>
  let (outcome, s) := run s
  (Outcome.within outcome label, s)

/-- Goes on with the outcome whether or not it is a failure. -/
def attempt (run : Run σ τ α) : Run σ τ (Outcome α) := fun s =>
  let (outcome, s) := run s
  (.ok outcome, s)

/-- Hands the elements to a step one after the other, up to the first failure. -/
def foldList (step : β → α → Run σ τ β) (acc : β) : List α → Run σ τ β
  | [] => pure acc
  | a :: rest => do
    let acc ← step acc a
    foldList step acc rest

/-- Hands the elements to a step one after the other and lists the results. -/
def mapList (step : α → Run σ τ β) : List α → Run σ τ (List β)
  | [] => pure []
  | a :: rest => do
    let b ← step a
    let bs ← mapList step rest
    pure (b :: bs)

/-- Logs a statement when statements are to be logged. -/
def logSql (options : DiagnosticOptions) (sql : String) : Run σ τ Unit :=
  if options.logSql then log .info ("SQL: " ++ sql) else pure ()

def rowText (row : Row) : String := "[" ++ ", ".intercalate (row.map Value.diagnostic) ++ "]"

/-- Logs the values of a row when values are to be logged. -/
def logRow (options : DiagnosticOptions) (table : String) (row : Row) : Run σ τ Unit :=
  if options.logRowValues then log .info s!"Row {table}: {rowText row}" else pure ()

end Run

end RowSync
