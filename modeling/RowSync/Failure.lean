import RowSync.Text.Blank

/-!
Why an operation fails, the text of each cause, and the exit status it leads to. A failure may be
wrapped in any number of contexts, which change its text and nothing else.
-/

set_option autoImplicit false

namespace RowSync

structure PostgresReply where
  code : String
  message : String
  constraint? : Option String
  deriving DecidableEq, Repr

/-- Causes on the connection to a PostgreSQL server. -/
inductive PostgresFault
  | server (reply : PostgresReply)
  | parameter (index : Nat)
  | cell (column : Nat)
  | parameterCount (expected given : Nat)
  | closed
  | connect
  | encryption
  | settings
  | login
  deriving DecidableEq, Repr

/-- The text of the cause; what the server said stays in the reply. -/
def PostgresFault.message : PostgresFault → String
  | server _ => "db error"
  | parameter index => s!"error serializing parameter {index}"
  | cell column => s!"error deserializing column {column}"
  | parameterCount expected given => s!"expected {expected} parameters but got {given}"
  | closed => "connection closed"
  | connect => "error connecting to server"
  | encryption => "error performing TLS handshake"
  | settings => "invalid configuration"
  | login => "authentication error"

structure MysqlReply where
  code : Nat
  state : String
  message : String
  deriving DecidableEq, Repr

def MysqlReply.text (reply : MysqlReply) : String :=
  s!"ERROR {reply.state} ({reply.code}): {reply.message}"

/-- Causes on the connection to a MySQL server. -/
inductive MysqlFault
  | server (reply : MysqlReply)
  | parameterCount (expected given : Nat)
  | closed
  | unreachable
  | noEncryption
  deriving DecidableEq, Repr

/-- The texts of the cause and of the causes below it, outermost first. -/
def MysqlFault.chain : MysqlFault → List String
  | server reply => [s!"Server error: `{reply.text}'", reply.text]
  | parameterCount expected given =>
    let inner := s!"Statement takes {expected} parameters but {given} was supplied."
    [s!"Driver error: `{inner}'", inner]
  | closed =>
    let inner := "Driver error: `Connection to the server is closed.'"
    [s!"Input/output error: Input/output error: {inner}", s!"Input/output error: {inner}", inner]
  | unreachable =>
    let inner := "Network is unreachable (os error 101)"
    [s!"Input/output error: Input/output error: {inner}", s!"Input/output error: {inner}", inner]
  | noEncryption =>
    let inner := "Client asked for SSL but server does not have this capability"
    [s!"Driver error: `{inner}'", inner]

def MysqlFault.message (fault : MysqlFault) : String := fault.chain.headD ""

/-- Why an operation failed. -/
inductive Failure
  | config (message : String)
  | postgres (fault : PostgresFault)
  | mysql (fault : MysqlFault)
  | connection (message context : String)
  | schemaExtraction (message : String)
  | tableNotFound (table : String)
  | columnNotFound (table column : String)
  | transfer (table message : String)
  | duplicateKey (message : String)
  | value (message : String)
  | fullRowLimitExceeded (table : String) (rows : Int) (limit : Nat)
  | streamClosed
  | stopRequested
  | context (label : String) (cause : Failure)
  | io (message : String)
  | yaml (message : String)
  | json (message : String)
  deriving DecidableEq, Repr

namespace Failure

/-- The text of the failure, contexts in front. -/
def message : Failure → String
  | config m => "Configuration error: " ++ m
  | postgres fault => "PostgreSQL error: " ++ fault.message
  | mysql fault => "MySQL error: " ++ fault.message
  | connection m c => "Connection error: " ++ m ++ "\n  Context: " ++ c
  | schemaExtraction m => "Schema extraction failed: " ++ m
  | tableNotFound t => s!"Table {t} not found in schema"
  | columnNotFound t c => s!"Column {c} not found in table {t}"
  | transfer t m => s!"Transfer failed for table {t}: {m}"
  | duplicateKey m => "Duplicate primary key: " ++ m
  | value m => "Value conversion error: " ++ m
  | fullRowLimitExceeded t rows limit =>
    s!"Table {t} has {rows} rows, above the full-row probe limit of {limit}; " ++
      "add an id column or raise migration.full_row_probe_limit"
  | streamClosed => "row stream closed by its reader"
  | stopRequested => "user requested a stop operation"
  | context label cause => label ++ ": " ++ cause.message
  | io m => "IO error: " ++ m
  | yaml m => "YAML error: " ++ m
  | json m => "JSON error: " ++ m

/-- The failure without its contexts. -/
def innermost : Failure → Failure
  | context _ cause => cause.innermost
  | failure => failure

/-- The failure is a collision of primary keys. -/
def isDuplicateKey : Failure → Bool
  | duplicateKey _ => true
  | context _ cause => cause.isDuplicateKey
  | _ => false

/-- Exit status of a program stopped by the failure. -/
def exitCode : Failure → Nat
  | config _ | yaml _ | json _ => 1
  | connection _ _ => 2
  | schemaExtraction _ | tableNotFound _ | columnNotFound _ _ => 3
  | postgres _ | mysql _ | transfer _ _ | duplicateKey _ | value _ | streamClosed
  | fullRowLimitExceeded _ _ _ => 4
  | stopRequested => 5
  | io _ => 7
  | context _ cause => cause.exitCode

/-- The texts of the causes below the failure, outermost first. -/
def causes : Failure → List String
  | context _ cause => cause.message :: cause.causes
  | mysql fault => fault.chain
  | postgres fault => [fault.message]
  | io m | yaml m | json m => [m]
  | _ => []

/-- The causes with their numbers, from the given one on. -/
def numberedCauses (number : Nat) : List String → String
  | [] => ""
  | cause :: rest => s!"\nCaused by:\n  {number}: {cause}" ++ numberedCauses (number + 1) rest

/-- The failure with all its causes. -/
def detailed (failure : Failure) : String :=
  "Error: " ++ failure.message ++ "\n" ++ numberedCauses 1 failure.causes

/-- The failure wrapped in a context. -/
def within (failure : Failure) (label : String) : Failure := context label failure

end Failure

abbrev Outcome (α : Type) := Except Failure α

def Outcome.within {α : Type} (outcome : Outcome α) (label : String) : Outcome α :=
  match outcome with
  | .ok a => .ok a
  | .error failure => .error (failure.within label)

end RowSync
