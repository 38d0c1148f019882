/-!
What a run reports while it works: log lines, and the notifications of migrations and
verifications, both in the order of their emission.
-/

set_option autoImplicit false

namespace RowSync

/-- How important a log line is. -/
inductive LogLevel
  | error
  | warn
  | info
  | debug
  deriving DecidableEq, Repr

namespace LogLevel

def name : LogLevel → String
  | error => "ERROR"
  | warn => "WARN"
  | info => "INFO"
  | debug => "DEBUG"

/-- The number of levels that are more important. -/
def rank : LogLevel → Nat
  | error => 0
  | warn => 1
  | info => 2
  | debug => 3

/-- The level is at least as important as the limit. -/
def isWithin (level limit : LogLevel) : Bool := level.rank ≤ limit.rank

end LogLevel

structure LogLine where
  level : LogLevel
  text : String
  deriving DecidableEq, Repr

/-- A notification of a run. -/
inductive Event
  | willDisableConstraints
  | didDisableConstraints
  | willEnableConstraints
  | enabledConstraints
  | enableConstraintsFailed (message : String)
  | willTruncate (table : String)
  | truncated (table : String)
  | started (table : String)
  | progress (table : String) (inserted : Nat)
  | finished (table : String) (inserted : Nat)
  | verifyStarted (table : String)
  | verifyFinished (table : String) (missing : Nat) (ids : List String)
  | verifyFailed (table message : String)
  deriving DecidableEq, Repr

/-- The reports of a run so far. -/
structure Journal where
  events : Array Event := #[]
  logs : Array LogLine := #[]

namespace Journal

def log (j : Journal) (level : LogLevel) (text : String) : Journal :=
  { j with logs := j.logs.push ⟨level, text⟩ }

def notify (j : Journal) (event : Event) : Journal := { j with events := j.events.push event }

end Journal

end RowSync
