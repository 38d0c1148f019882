import RowSync.Command.Grammar
import RowSync.Config.Options

/-!
The command line of the program: general options, then a command with options of its own.
-/

set_option autoImplicit false

namespace RowSync

/-- Diagnostics that can be switched on. -/
inductive DebugFlag
  | sql
  | data
  | schema
  | stop
  deriving DecidableEq, Repr

namespace DebugFlag

/-- The flags by their names. -/
def named : List (String × DebugFlag) :=
  [("sql", sql), ("data", data), ("schema", schema), ("stop", stop)]

def name : DebugFlag → String
  | sql => "sql"
  | data => "data"
  | schema => "schema"
  | stop => "stop"

/-- Switches on what the flag stands for. -/
def apply (options : DiagnosticOptions) : DebugFlag → DiagnosticOptions
  | sql => { options with logSql := true }
  | data => { options with logRowValues := true }
  | schema => { options with dumpSchemaDiff := true }
  | stop => { options with stopAfterSchemaDump := true }

end DebugFlag

/-- Switches on what the flags stand for. -/
def DiagnosticOptions.enable (options : DiagnosticOptions) (flags : List DebugFlag) :
    DiagnosticOptions := flags.foldl DebugFlag.apply options

/-- What the program is asked to do. -/
inductive Command
  | migrate (truncate : Bool)
  | validate
  | verify
  deriving DecidableEq, Repr

structure Arguments where
  configPath : String := "config.yml"
  /-- The result is written as a JSON document. -/
  jsonOutput : Bool := false
  logFormat : String := "text"
  verbosity : String := "info"
  command : Command
  debugFlags : List DebugFlag := []
  deriving DecidableEq, Repr

namespace Arguments

/-- The option that asks for help. -/
def helpRule : OptionRule := { name := "help", letter? := some 'h', kind := .help }

/-- The option that lists diagnostics. -/
def debugRule : OptionRule where
  name := "debug"
  kind := .list
  accepts := fun value => (DebugFlag.named.lookup value).isSome

/-- The names of the commands; the last explains another one. -/
def commandNames : List String := ["migrate", "validate", "verify", "help"]

/-- The options in front of the command. -/
def general : CommandLevel where
  options := [
    { name := "config", letter? := some 'c', kind := .single, accepts := fun value => value != "" },
    { name := "output-json", kind := .flag },
    { name := "log-format", kind := .single },
    { name := "verbosity", kind := .single },
    helpRule,
    { name := "version", letter? := some 'V', kind := .version }]
  commands := commandNames

/-- The options behind a command. -/
def specific (command : String) : CommandLevel where
  options :=
    if command == "migrate" then [{ name := "truncate", kind := .flag }, debugRule, helpRule]
    else [debugRule, helpRule]

/-- The words behind the request for help name one command at most. -/
def helpFault : List String → ArgumentFault
  | [] => .help
  | [name] => if commandNames.contains name then .help else .unknownCommand
  | _ => .unknownCommand

/-- Takes the words behind a command. -/
def takeSpecific (command : String) (words : List String) : Taking TakenWords :=
  match (specific command).take {} words with
  | .error fault => .error fault
  | .ok (t, _) => t.settle

/-- The command of that name with its options. -/
def commandOf (name : String) (t : TakenWords) : Command :=
  if name == "migrate" then .migrate (t.has "truncate")
  else if name == "validate" then .validate
  else .verify

/-- The value of an option that may be given once. -/
def valueOr (t : TakenWords) (name preset : String) : String := ((t.values name).head?).getD preset

/-- The arguments that the words of both levels amount to. -/
def ofTaken (t : TakenWords) (name : String) (own : TakenWords) : Arguments where
  configPath := valueOr t "config" "config.yml"
  jsonOutput := t.has "output-json"
  logFormat := valueOr t "log-format" "text"
  verbosity := valueOr t "verbosity" "info"
  command := commandOf name own
  debugFlags := (own.values "debug").filterMap fun value => DebugFlag.named.lookup value

def read (words : List String) : Taking Arguments := do
  let (t, command?) ← general.take {} words
  match command? with
  | none =>
    let t ← t.settle
    .error (if t.stored.isEmpty then .nothing else .missingCommand)
  | some ("help", words) => .error (helpFault words)
  | some (name, words) =>
    let own ← takeSpecific name words
    let t ← t.settle
    pure (ofTaken t name own)

end Arguments

end RowSync
