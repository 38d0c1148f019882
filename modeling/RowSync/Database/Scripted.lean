import RowSync.Database.Basic

/-!
A database that gives prepared replies in order and remembers what it was asked.
-/

set_option autoImplicit false

namespace RowSync

/-- A prepared reply to one statement. -/
structure ScriptedReply where
  rows : List Row := []
  affected : Nat := 1
  /-- Raised by the statement; a stream delivers its full batches before. -/
  failure? : Option Failure := none

/-- A request that was made. -/
inductive ScriptedCall
  | query (sql : String) (parameters : List Value)
  | stream (sql : String) (parameters : List Value)
  | execute (sql : String) (parameters : List Value)
  | disableConstraints
  | enableConstraints
  deriving DecidableEq

/-- The replies left and the requests made, the latest last. -/
structure Script where
  replies : List ScriptedReply
  calls : Array ScriptedCall := #[]

/-- What does not depend on the replies. -/
structure ScriptSettings where
  dialect : Dialect
  schema : Outcome (List SchemaRow) := .ok []
  disable : Outcome Unit := .ok ()
  enable : Outcome Unit := .ok ()

namespace Script

def remember (s : Script) (call : ScriptedCall) : Script := { s with calls := s.calls.push call }

/-- Takes the next reply; without one left, the empty reply. -/
def next (s : Script) (call : ScriptedCall) : ScriptedReply × Script :=
  match s.replies with
  | [] => ({}, s.remember call)
  | reply :: replies => (reply, { s.remember call with replies })

/-- The answer to a statement, unless the reply raises a failure. -/
def answer {α : Type} (reply : ScriptedReply) (a : α) : Outcome α :=
  match reply.failure? with
  | some failure => .error failure
  | none => .ok a

/-- The rows of a reply as they arrive, with its failure behind them. -/
def arriving (reply : ScriptedReply) : List (Outcome Row) :=
  reply.rows.map .ok ++ (reply.failure?.map .error).toList

def database (settings : ScriptSettings) : Database Script where
  dialect := settings.dialect
  schemaRows := fun s => (settings.schema, s)
  disableConstraints := fun s => (settings.disable, s.remember .disableConstraints)
  enableConstraints := fun s => (settings.enable, s.remember .enableConstraints)
  query := fun sql parameters s =>
    let (reply, s) := s.next (.query sql parameters)
    (answer reply reply.rows, s)
  stream := fun sql parameters size s =>
    let (reply, s) := s.next (.stream sql parameters)
    (Stream.ofRows size (arriving reply), s)
  execute := fun sql parameters s =>
    let (reply, s) := s.next (.execute sql parameters)
    (answer reply reply.affected, s)
  close := fun s => (.ok (), s)

end Script

end RowSync
