import RowSync.Command.Program
import RowSync.Database.Peer
import Std.Time.DateTime.Timestamp

/-!
The program itself: it reads its arguments and its configuration, runs, and writes its output, log
and report. It has no network of its own, so nobody is met at the far end of a connection.
-/

set_option autoImplicit false

namespace RowSync.Main

def readFile (path : String) : IO (Outcome String) := do
  try
    return .ok (← IO.FS.readFile path)
  catch e =>
    return .error (.io (toString e))

/-- Seconds between the start of the year 1970 and the epoch of date-times. -/
def epochOffset : Int := 946684800

/-- A run that begins and ends now. -/
def now : IO Timing := do
  let t ← Std.Time.Timestamp.now
  let nanos := t.toNanosecondsSinceUnixEpoch.val - epochOffset * nanosPerSecond
  let instant := (DateTime.ofEpochNanos? nanos).getD .epoch
  return ⟨instant, instant, 0⟩

def access : Access Peer := ⟨Peer.database, Peer.connect⟩

def logText (arguments : Arguments) (l : LogLine) : String :=
  if arguments.logFormat == "json" then l.document.compact else l.level.name ++ " " ++ l.text

/-- Carries out a command line and gives the exit status. -/
def runArguments (arguments : Arguments) : IO Nat := do
  let text ← readFile arguments.configPath
  let surroundings : Surroundings Peer Peer := ⟨fun _ => text, access, access, ← now⟩
  let ending := Program.run surroundings arguments .unreachable .unreachable
  for l in ending.shownLogs arguments do
    IO.eprintln (logText arguments l)
  IO.print ending.output
  IO.eprint ending.report
  return ending.exitCode

/-- Says why a command line is not carried out and gives the exit status. -/
def refuse (fault : ArgumentFault) : IO Nat := do
  if fault.exitCode == 0 then IO.println fault.message else IO.eprintln fault.message
  return fault.exitCode

/-- Carries out the words of a command line and gives the exit status. -/
def run (words : List String) : IO UInt32 := do
  let code ←
    match Arguments.read words with
    | .ok arguments => runArguments arguments
    | .error fault => refuse fault
  return UInt32.ofNat code

end RowSync.Main

def main (words : List String) : IO UInt32 := RowSync.Main.run words
