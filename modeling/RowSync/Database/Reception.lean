import RowSync.Failure
import RowSync.Journal

/-!
How connections begin: what servers do with a new connection, and what an attempt to connect leaves
in the log.
-/

set_option autoImplicit false

namespace RowSync

/-- What a server does with a new connection. -/
inductive Reception
  /-- Nobody listens. -/
  | absent
  | accepting
  /-- The login is refused. -/
  | refusing
  /-- The login is accepted and the first statement refused. -/
  | refusingProbe
  /-- A password is asked for, and every password accepted. -/
  | askingPassword
  deriving DecidableEq, Repr

/-- An attempt to connect, with the lines logged on the way. -/
structure Attempt where
  outcome : Outcome Unit
  lines : List LogLine

/-- The statement that shows that a connection works. -/
def probeStatement : String := "SELECT 1"

end RowSync
