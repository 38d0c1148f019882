import RowSync.Database.Reception
import RowSync.Command.Execution
import RowSync.Command.Usage
import RowSync.Config.Reading

/-!
The program from its command line to its exit status. The destination is connected first, then the
source; every connection that was opened is closed again, whatever happens in between.
-/

set_option autoImplicit false

namespace RowSync

/-- How the program reaches a database with states in `σ`. -/
structure Access (σ : Type) where
  database : DatabaseSettings → Database σ
  /-- Opens the connection. -/
  connect : DatabaseSettings → σ → Attempt × σ

/-- What the program finds outside: files, two databases and the time. -/
structure Surroundings (σ τ : Type) where
  /-- The text of a file. -/
  file : String → Outcome String
  source : Access σ
  target : Access τ
  timing : Timing

/-- The program at its end. -/
structure Ending (σ τ : Type) where
  outcome : Outcome Unit
  output : String := ""
  logs : List LogLine := []
  source : σ
  target : τ

namespace Program

variable {σ τ : Type}

/-- The levels of log lines by their names. -/
def levels : List (String × LogLevel) :=
  [("debug", .debug), ("info", .info), ("warn", .warn), ("error", .error)]

def logFormats : List String := ["json", "text"]

/-- The least level of the lines that are logged. -/
def logLevel (arguments : Arguments) : Outcome LogLevel :=
  let name := Text.lower arguments.verbosity
  match levels.lookup name with
  | none => .error (.config s!"unknown verbosity '{name}'")
  | some level =>
    if logFormats.contains arguments.logFormat then .ok level
    else .error (.config s!"unknown log format '{arguments.logFormat}'")

/-- The options of the configuration, those of the command line added. -/
def adjust (arguments : Arguments) (c : Configuration) : Configuration :=
  let diagnostics := c.options.diagnostics.enable arguments.debugFlags
  let migration :=
    if arguments.command == .migrate true then { c.options.migration with truncateFirst := true }
    else c.options.migration
  { c with options := { migration, diagnostics } }

/-- The configuration of a run, checked as it stands in its file and again as it is used. -/
def configure (surroundings : Surroundings σ τ) (arguments : Arguments) :
    Outcome Configuration := do
  let _ ← logLevel arguments
  let text ← surroundings.file arguments.configPath
  let c ← Configuration.ofText text
  let c := adjust arguments c
  c.check
  pure c

/-- A line that says that the configuration was read. -/
def loadedLine (arguments : Arguments) : LogLine :=
  ⟨.info, "Loaded configuration from " ++ Text.quoted arguments.configPath⟩

/-- A line that says that a side is connected. -/
def connectedLine (side : String) (settings : DatabaseSettings) : LogLine :=
  ⟨.info, s!"Connected to {side} {settings.endpoint}"⟩

/-- Gives up a connection; a failure to do so is only logged. -/
def close {α : Type} (db : Database α) (side : String) (a : α) : List LogLine × α :=
  match db.close a with
  | (.ok (), a) => ([], a)
  | (.error failure, a) =>
    ([⟨.warn, s!"Failed to close {side} connection: {failure.message}"⟩], a)

/-- The program on a connected destination. -/
def runOnTarget (surroundings : Surroundings σ τ) (arguments : Arguments) (c : Configuration)
    (s : σ) (t : τ) : Ending σ τ :=
  let target := surroundings.target.database c.target
  let (attempt, s) := surroundings.source.connect c.source s
  match attempt.outcome with
  | .error failure =>
    let (closing, t) := close target "destination" t
    { outcome := .error failure, logs := attempt.lines ++ closing, source := s, target := t }
  | .ok () =>
    let source := surroundings.source.database c.source
    let execution :=
      Execution.ofArguments arguments c.options surroundings.timing ⟨source, target⟩
        { source := s, target := t }
    let (closingSource, s) := close source "source" execution.state.source
    let (closingTarget, t) := close target "destination" execution.state.target
    { outcome := execution.outcome, output := execution.output
      logs := attempt.lines ++ connectedLine "source" c.source ::
        execution.state.journal.logs.toList ++ closingSource ++ closingTarget
      source := s, target := t }

def run (surroundings : Surroundings σ τ) (arguments : Arguments) (s : σ) (t : τ) : Ending σ τ :=
  match configure surroundings arguments with
  | .error failure => { outcome := .error failure, source := s, target := t }
  | .ok c =>
    let (attempt, t) := surroundings.target.connect c.target t
    match attempt.outcome with
    | .error failure =>
      { outcome := .error failure, logs := loadedLine arguments :: attempt.lines, source := s
        target := t }
    | .ok () =>
      let ending := runOnTarget surroundings arguments c s t
      { ending with
        logs := loadedLine arguments :: attempt.lines ++ connectedLine "destination" c.target ::
          ending.logs }

end Program

namespace Ending

variable {σ τ : Type}

def exitCode (e : Ending σ τ) : Nat :=
  match e.outcome with
  | .ok () => 0
  | .error failure => failure.exitCode

/-- The lines of the log that are wanted. -/
def shownLogs (arguments : Arguments) (e : Ending σ τ) : List LogLine :=
  match Program.logLevel arguments with
  | .ok limit => e.logs.filter fun l => l.level.isWithin limit
  | .error _ => []

/-- What is written to standard error about a failure. -/
def report (e : Ending σ τ) : String :=
  match e.outcome with
  | .ok () => ""
  | .error failure => line failure.detailed

end Ending

end RowSync
