import RowSync.Database.Basic
import RowSync.Database.Reception
import RowSync.Mysql.Cell
import RowSync.Mysql.Fault

/-!
A session with a MySQL server. Statements without parameters are sent as text; others are prepared
once per text and executed with their parameters. A fault found on this side breaks the session.
-/

set_option autoImplicit false

namespace RowSync

/-- What is sent to a server. -/
inductive MysqlMessage
  | login (user : String)
  | query (sql : String)
  | prepare (sql : String)
  | execute (parameters : List MysqlValue)
  deriving DecidableEq

/-- What a server does with a statement. -/
structure MysqlAnswer where
  columns : List MysqlColumn := []
  rows : List (List MysqlValue) := []
  /-- The number of rows changed. -/
  affected : Nat := 0
  /-- The statement is not prepared. -/
  refusal? : Option MysqlReply := none
  /-- The statement fails after its rows. -/
  failure? : Option MysqlReply := none

/-- A server: how it receives connections and what it answers. -/
structure MysqlServer where
  reception : Reception := .accepting
  /-- What it says when it refuses. -/
  refusal : MysqlReply := ⟨1045, "28000", "refused"⟩
  answer : String → MysqlAnswer := fun _ => {}

/-- How things stand with a connection. -/
inductive MysqlLink
  | established
  /-- Broken by a fault on this side. -/
  | broken
  /-- Given up. -/
  | closed
  deriving DecidableEq, Repr

/-- A session: the server with its answers, and what is known on this side. -/
structure MysqlSession where
  server : MysqlServer
  database : String := ""
  /-- Tables that are left out of the description of the database. -/
  excludedTables : List String := []
  link : MysqlLink := .established
  /-- Texts of the statements that stay prepared, the last used first. -/
  prepared : List String := []
  /-- What was sent, the latest last. -/
  sent : Array MysqlMessage := #[]

namespace MysqlSession

/-- The number of statements that stay prepared. -/
def preparedLimit : Nat := 32

def parameterCount (sql : String) : Nat := sql.toList.count '?'

/-- Sends a message, unless the connection is broken. -/
def send (s : MysqlSession) (message : MysqlMessage) : Except MysqlFault MysqlSession :=
  if s.link == .established then .ok { s with sent := s.sent.push message } else .error .closed

def prepare (sql : String) (s : MysqlSession) : Except MysqlFault Unit × MysqlSession :=
  if s.prepared.contains sql then (.ok (), { s with prepared := sql :: s.prepared.erase sql })
  else
    match s.send (.prepare sql) with
    | .error fault => (.error fault, s)
    | .ok s =>
      match (s.server.answer sql).refusal? with
      | some reply => (.error (.server reply), s)
      | none => (.ok (), { s with prepared := (sql :: s.prepared).take preparedLimit })

/-- Executes a prepared statement; a wrong number of parameters breaks the session. -/
def executePrepared (sql : String) (parameters : List MysqlValue) (s : MysqlSession) :
    Except MysqlFault MysqlAnswer × MysqlSession :=
  if parameterCount sql != parameters.length then
    (.error (.parameterCount (parameterCount sql) parameters.length), { s with link := .broken })
  else
    match s.send (.execute parameters) with
    | .error fault => (.error fault, s)
    | .ok s => (.ok (s.server.answer sql), s)

/-- The server's answer to a statement, prepared first when it has parameters. -/
def exchange (sql : String) (parameters : List MysqlValue) (s : MysqlSession) :
    Except MysqlFault MysqlAnswer × MysqlSession :=
  if parameters.isEmpty then
    match s.send (.query sql) with
    | .error fault => (.error fault, s)
    | .ok s => (.ok (s.server.answer sql), s)
  else
    match prepare sql s with
    | (.error fault, s) => (.error fault, s)
    | (.ok (), s) => executePrepared sql parameters s

/-- The failure of every request after the connection was given up. -/
def closedFailure (s : MysqlSession) : Failure := .connection "connection is closed" s.database

/-- The answer to a statement, its failures told apart for a run. -/
def ask (sql : String) (parameters : List Value) (s : MysqlSession) :
    Outcome MysqlAnswer × MysqlSession :=
  if s.link == .closed then (.error s.closedFailure, s)
  else
    let (answer, s) := exchange sql (parameters.map .ofValue) s
    (answer.mapError MysqlFault.failure, s)

/-- The failure at the end of an answer, if any. -/
def finish {α : Type} (answer : MysqlAnswer) (a : α) : Outcome α :=
  match answer.failure? with
  | some reply => .error (MysqlFault.server reply).failure
  | none => .ok a

def query (sql : String) (parameters : List Value) : Request MysqlSession (List Row) := fun s =>
  let (answer, s) := ask sql parameters s
  (do
    let answer ← answer
    finish answer ()
    answer.rows.mapM (MysqlColumn.decodeRow answer.columns), s)

def execute (sql : String) (parameters : List Value) : Request MysqlSession Nat := fun s =>
  let (answer, s) := ask sql parameters s
  (do
    let answer ← answer
    finish answer answer.affected, s)

/-- The rows of a statement as they arrive, a failure behind those in front of it. -/
def arriving (sql : String) (parameters : List Value) (s : MysqlSession) :
    List (Outcome Row) × MysqlSession :=
  match ask sql parameters s with
  | (.error failure, s) => ([.error failure], s)
  | (.ok answer, s) =>
    (answer.rows.map (MysqlColumn.decodeRow answer.columns) ++
      (answer.failure?.map fun reply => .error (MysqlFault.server reply).failure).toList, s)

/-- The statement that describes the tables of a database, so many of them left out. -/
def schemaQuery (excluded : Nat) : String :=
  "SELECT CAST(c.TABLE_NAME AS CHAR(255)), CAST(c.COLUMN_NAME AS CHAR(255)), " ++
  "CAST(c.DATA_TYPE AS CHAR(255)), CAST(c.CHARACTER_MAXIMUM_LENGTH AS SIGNED) " ++
  "FROM INFORMATION_SCHEMA.COLUMNS c JOIN INFORMATION_SCHEMA.TABLES t " ++
  "ON t.TABLE_SCHEMA = c.TABLE_SCHEMA AND t.TABLE_NAME = c.TABLE_NAME " ++
  "WHERE t.TABLE_TYPE = 'BASE TABLE' AND c.TABLE_SCHEMA = ?" ++
  (if excluded == 0 then ""
    else " AND c.TABLE_NAME NOT IN (" ++ ", ".intercalate (List.replicate excluded "?") ++ ")") ++
  " ORDER BY c.TABLE_NAME, c.ORDINAL_POSITION"

def readName? : MysqlValue → Option String
  | .bytes b => (Utf8.decode b).toOption
  | _ => none

def readBound? : MysqlValue → Option (Option Int)
  | .null => some none
  | .int n => some (some n.toInt)
  | .uint n => if n.toNat < Nat.pow 2 63 then some (some n.toNat) else none
  | .bytes b => do
    let s ← (Utf8.decode b).toOption
    let n ← (Integer.readSigned 64 s).toOption
    pure (some n)
  | _ => none

def readSchemaRow (cells : List MysqlValue) : Outcome SchemaRow :=
  let row? : Option SchemaRow := do
    let table ← readName? (cells.getD 0 .null)
    let column ← readName? (cells.getD 1 .null)
    let dataType ← readName? (cells.getD 2 .null)
    let bound ← readBound? (cells.getD 3 .null)
    pure ⟨table, column, dataType, bound⟩
  match row? with
  | some row => .ok row
  | none => .error (.schemaExtraction "row conversion failed")

/-- A fault met while the database is described. -/
def schemaFailure (fault : MysqlFault) : Failure := .schemaExtraction fault.message

/-- The description of every table that is not left out. -/
def schemaRows : Request MysqlSession (List SchemaRow) := fun s =>
  if s.link == .closed then (.error s.closedFailure, s)
  else
    let (answer, s) := exchange (schemaQuery s.excludedTables.length)
      (.ofText s.database :: s.excludedTables.map .ofText) s
    (do
      let answer ← answer.mapError schemaFailure
      match answer.failure? with
      | some reply => .error (schemaFailure (.server reply))
      | none => answer.rows.mapM readSchemaRow, s)

/-- Runs a statement whose answer does not matter. -/
def command (sql : String) : Request MysqlSession Unit := fun s =>
  let (answer, s) := execute sql [] s
  (answer.map fun _ => (), s)

/-- Gives up the connection; a second time changes nothing. -/
def close : Request MysqlSession Unit := fun s => (.ok (), { s with link := .closed })

def toDatabase (roundTime : Bool) : Database MysqlSession where
  dialect := .mysql roundTime
  schemaRows := schemaRows
  disableConstraints := command "SET FOREIGN_KEY_CHECKS = 0"
  enableConstraints := command "SET FOREIGN_KEY_CHECKS = 1"
  query := query
  stream := fun sql parameters size s =>
    let (rows, s) := arriving sql parameters s
    (Stream.ofRows size rows, s)
  execute := execute
  close := close

end MysqlSession

end RowSync
