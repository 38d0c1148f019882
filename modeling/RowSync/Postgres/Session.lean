import RowSync.Database.Basic
import RowSync.Database.Reception
import RowSync.Postgres.Cell
import RowSync.Postgres.Fault
import RowSync.Postgres.Parameter
import RowSync.Text.Search

/-!
A session with a PostgreSQL server. Every statement is prepared once per text; the server then tells
the types of its parameters and columns, which stay known until the connection is given up.
-/

set_option autoImplicit false

namespace RowSync

/-- What is sent to a server. -/
inductive PostgresMessage
  | encryptionRequest
  | startup (settings : List (String × String))
  | password (text : String)
  | simple (sql : String)
  | parse (sql : String)
  | bind (parameters : List (Option Bytes))
  deriving DecidableEq

/-- What a server does with a statement. -/
structure PostgresAnswer where
  parameters : List PostgresType := []
  columns : List PostgresColumn := []
  rows : List (List (Option Bytes)) := []
  /-- What was done, with the number of rows as the last word. -/
  tag : String := ""
  /-- The statement is not prepared. -/
  refusal? : Option PostgresReply := none
  /-- The statement fails after its rows. -/
  failure? : Option PostgresReply := none

namespace PostgresAnswer

/-- The number of rows that the tag reports; a tag without a number reports none. -/
def affected (a : PostgresAnswer) : Nat :=
  match (Text.splitAll [' '] a.tag.toList).getLast? with
  | some word => (Integer.readUnsigned 64 (String.ofList word)).toOption.getD 0
  | none => 0

end PostgresAnswer

/-- A server: how it receives connections and what it answers. -/
structure PostgresServer where
  reception : Reception := .accepting
  /-- It is reached through a socket in a directory, not over a network. -/
  isLocal : Bool := false
  /-- What it says when it refuses. -/
  refusal : PostgresReply := ⟨"28000", "refused", none⟩
  answer : String → PostgresAnswer := fun _ => {}

structure PostgresStatement where
  parameters : List PostgresType
  columns : List PostgresColumn
  deriving DecidableEq, Repr

/-- A session: the server with its answers, and what is known on this side. -/
structure PostgresSession where
  server : PostgresServer
  database : String := ""
  /-- The part of the database that is described. -/
  schema : String := "public"
  /-- Tables that are left out of the description of the database. -/
  excludedTables : List String := []
  isOpen : Bool := true
  /-- The prepared statements by their texts. -/
  statements : List (String × PostgresStatement) := []
  /-- What was sent, the latest last. -/
  sent : Array PostgresMessage := #[]

namespace PostgresSession

/-- Sends a message, as long as the connection is open. -/
def send (s : PostgresSession) (message : PostgresMessage) : Except PostgresFault PostgresSession :=
  if s.isOpen then .ok { s with sent := s.sent.push message } else .error .closed

/-- Has the server prepare a statement. -/
def describe (sql : String) (s : PostgresSession) :
    Except PostgresFault PostgresStatement × PostgresSession :=
  match s.send (.parse sql) with
  | .error fault => (.error fault, s)
  | .ok s =>
    let answer := s.server.answer sql
    match answer.refusal? with
    | some reply => (.error (.server reply), s)
    | none => (.ok ⟨answer.parameters, answer.columns⟩, s)

/-- The prepared statement of a text, known already or prepared now. -/
def prepare (sql : String) (s : PostgresSession) :
    Except PostgresFault PostgresStatement × PostgresSession :=
  match s.statements.lookup sql with
  | some statement => (.ok statement, s)
  | none =>
    match describe sql s with
    | (.error fault, s) => (.error fault, s)
    | (.ok statement, s) =>
      (.ok statement, { s with statements := (sql, statement) :: s.statements })

/-- The parameters from the one with that index on, each in the form of its type. -/
def encodeFrom {α : Type} (encode : PostgresType → α → Except ParameterFault (Option Bytes))
    (index : Nat) : List PostgresType → List α → Except PostgresFault (List (Option Bytes))
  | type :: types, v :: values =>
    match encode type v with
    | .error _ => .error (.parameter index)
    | .ok b => (encodeFrom encode (index + 1) types values).map (b :: ·)
  | _, _ => .ok []

/-- The parameters of a statement; their number has to be right. -/
def encodeAll {α : Type} (encode : PostgresType → α → Except ParameterFault (Option Bytes))
    (types : List PostgresType) (values : List α) : Except PostgresFault (List (Option Bytes)) :=
  if types.length != values.length then .error (.parameterCount types.length values.length)
  else encodeFrom encode 0 types values

def executePrepared (sql : String) (parameters : Except PostgresFault (List (Option Bytes)))
    (s : PostgresSession) : Except PostgresFault PostgresAnswer × PostgresSession :=
  match parameters with
  | .error fault => (.error fault, s)
  | .ok parameters =>
    match s.send (.bind parameters) with
    | .error fault => (.error fault, s)
    | .ok s => (.ok (s.server.answer sql), s)

/-- The server's answer to a statement, together with the statement as it was prepared. -/
def exchange (sql : String) (parameters : List Value) (s : PostgresSession) :
    Except PostgresFault (PostgresStatement × PostgresAnswer) × PostgresSession :=
  match prepare sql s with
  | (.error fault, s) => (.error fault, s)
  | (.ok statement, s) =>
    let (answer, s) :=
      executePrepared sql (encodeAll PostgresParameter.encode statement.parameters parameters) s
    (answer.map fun a => (statement, a), s)

/-- The failure at the end of an answer, if any. -/
def finish {α : Type} (answer : PostgresAnswer) (a : α) : Except PostgresFault α :=
  match answer.failure? with
  | some reply => .error (.server reply)
  | none => .ok a

/-- Runs a statement that gives rows: all of them are taken in before the first is decoded. -/
def query (sql : String) (parameters : List Value) : Request PostgresSession (List Row) := fun s =>
  let (result, s) := exchange sql parameters s
  (do
    let (statement, answer) ← result.mapError PostgresFault.failure
    (finish answer ()).mapError PostgresFault.failure
    answer.rows.mapM (PostgresColumn.decodeRow statement.columns), s)

def execute (sql : String) (parameters : List Value) : Request PostgresSession Nat := fun s =>
  let (result, s) := exchange sql parameters s
  ((result.bind fun (_, answer) => finish answer answer.affected).mapError PostgresFault.failure, s)

/-- The rows of a statement as they arrive, a failure behind those in front of it. -/
def arriving (sql : String) (parameters : List Value) (s : PostgresSession) :
    List (Outcome Row) × PostgresSession :=
  match exchange sql parameters s with
  | (.error fault, s) => ([.error fault.failure], s)
  | (.ok (statement, answer), s) =>
    (answer.rows.map (PostgresColumn.decodeRow statement.columns) ++
      (answer.failure?.map fun reply => .error (PostgresFault.server reply).failure).toList, s)

/-- Runs a statement and delivers its rows in batches of a size, each row decoded as it arrives. -/
def stream (sql : String) (parameters : List Value) (size : Nat) (s : PostgresSession) :
    Stream × PostgresSession :=
  let (rows, s) := arriving sql parameters s
  (Stream.ofRows size rows, s)

/-- The statement that describes the tables of one part of a database. -/
def schemaQuery : String :=
  "\n    SELECT\n        c.table_name::text,\n        c.column_name::text,\n" ++
  "        c.data_type::text,\n        c.character_maximum_length::bigint\n" ++
  "    FROM information_schema.columns c\n    JOIN information_schema.tables t\n" ++
  "        ON t.table_catalog = c.table_catalog\n" ++
  "        AND t.table_schema = c.table_schema\n" ++
  "        AND t.table_name = c.table_name\n" ++
  "    WHERE t.table_type = 'BASE TABLE'\n        AND c.table_schema = $1\n" ++
  "        AND c.table_catalog = $2\n        AND NOT (c.table_name::text = ANY($3))\n" ++
  "    ORDER BY c.table_name, c.ordinal_position\n"

/-- The types of lists of names, with the numbers of the types of their items. -/
def nameLists : List (String × Nat) :=
  [("_text", 25), ("_varchar", 1043), ("_bpchar", 1042), ("_name", 19)]

/-- A list of texts: one dimension, no NULL, the type of the items, their number and lower bound,
then each item behind its length. -/
def encodeList (itemType : Nat) (items : List String) : Bytes :=
  BigEndian.ofNat 4 1 ++ BigEndian.ofNat 4 0 ++ BigEndian.ofNat 4 itemType ++
    BigEndian.ofNat 4 items.length ++ BigEndian.ofNat 4 1 ++
    items.flatMap fun item => BigEndian.ofNat 4 (Utf8.encode item).length ++ Utf8.encode item

/-- A parameter of the statement that describes a database. -/
inductive SchemaParameter
  | name (text : String)
  | names (texts : List String)

/-- The form of such a parameter; no other types than those of names take it. -/
def SchemaParameter.encode (type : PostgresType) :
    SchemaParameter → Except ParameterFault (Option Bytes)
  | name s => if type.isCharacters then .ok (some (Utf8.encode s)) else .error .identifier
  | names items =>
    match type with
    | .other typeName =>
      match nameLists.lookup typeName with
      | some itemType => .ok (some (encodeList itemType items))
      | none => .error .identifier
    | _ => .error .identifier

def readName (columns : List PostgresColumn) (cells : List (Option Bytes)) (index : Nat) :
    Except PostgresFault String :=
  let name? : Option String := do
    let column ← columns[index]?
    let cell ← cells[index]?
    let b ← cell
    if column.type.isCharacters then PostgresColumn.readText? b else none
  match name? with
  | some name => .ok name
  | none => .error (.cell index)

def readBound (columns : List PostgresColumn) (cells : List (Option Bytes)) (index : Nat) :
    Except PostgresFault (Option Int) :=
  let bound? : Option (Option Int) := do
    let column ← columns[index]?
    let cell ← cells[index]?
    if column.type == .int8 then
      match cell with
      | none => some none
      | some b => (BigEndian.readInt? 8 b).map some
    else none
  match bound? with
  | some bound => .ok bound
  | none => .error (.cell index)

def readSchemaRow (columns : List PostgresColumn) (cells : List (Option Bytes)) :
    Except PostgresFault SchemaRow := do
  let table ← readName columns cells 0
  let column ← readName columns cells 1
  let dataType ← readName columns cells 2
  let bound ← readBound columns cells 3
  pure ⟨table, column, dataType, bound⟩

/-- The description of every table that is not left out. Its statement is prepared every time. -/
def schemaRows : Request PostgresSession (List SchemaRow) := fun s =>
  let (statement, s) := describe schemaQuery s
  let (answer, s) := executePrepared schemaQuery (statement.bind fun statement =>
    encodeAll SchemaParameter.encode statement.parameters
      [.name s.schema, .name s.database, .names s.excludedTables]) s
  let rows := do
    let statement ← statement
    let answer ← answer
    finish answer ()
    answer.rows.mapM (readSchemaRow statement.columns)
  (rows.mapError fun fault => .schemaExtraction fault.message, s)

/-- Gives up the connection and forgets what was prepared. -/
def close : Request PostgresSession Unit := fun s =>
  (.ok (), { s with isOpen := false, statements := [] })

/-- The database behind a session; the checks between its tables are left as they are. -/
def toDatabase : Database PostgresSession where
  dialect := .postgres
  schemaRows := schemaRows
  disableConstraints := fun s => (.ok (), s)
  enableConstraints := fun s => (.ok (), s)
  query := query
  stream := stream
  execute := execute
  close := close

end PostgresSession

end RowSync
