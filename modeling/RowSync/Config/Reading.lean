import RowSync.Config.Configuration
import RowSync.Yaml.Node

/-!
Configurations read from YAML. A text takes any scalar as written; numbers and truth values have
to be plain; a value that is not written is an empty mapping or sequence.
-/

set_option autoImplicit false

namespace RowSync.Config

open Yaml

abbrev Reader (α : Type) := Document → Node → Option α

/-- The scalar that a node stands for. -/
def scalar? (d : Document) (n : Node) : Option (Option (List Char) × ScalarStyle × String) :=
  match d.resolve n with
  | some (.scalar tag? style content) => some (tag?, style, content)
  | _ => none

def text : Reader String := fun d n => (scalar? d n).map (·.2.2)

/-- The tag of a common type. -/
def commonTag (name : String) : List Char := "tag:yaml.org,2002:".toList ++ name.toList

/-- The content of a scalar that may be read as another type: a plain one, or a literal block that
is tagged with the type. -/
def typed? (type : String) (d : Document) (n : Node) : Option String :=
  match scalar? d n with
  | some (_, .plain, content) => some content
  | some (some tag, .literal, content) => if tag == commonTag type then some content else none
  | _ => none

def bool : Reader Bool := fun d n =>
  match typed? "bool" d n with
  | some "true" | some "True" | some "TRUE" => some true
  | some "false" | some "False" | some "FALSE" => some false
  | _ => none

/-- A number in digits of a base. -/
def digits? (base : Nat) (cs : List Char) : Option Nat :=
  if cs.isEmpty then none
  else cs.foldlM (fun acc c => (Hex.value? c).bind fun d =>
    if d < base then some (acc * base + d) else none) 0

/-- The base that two characters in front of a number stand for. -/
def base? (cs : List Char) : Option Nat :=
  [(['0', 'x'], 16), (['0', 'o'], 8), (['0', 'b'], 2)].lookup (cs.take 2)

/-- The number that a plain scalar writes; zeros in front are refused. -/
def natural? (content : String) : Option Nat :=
  let cs := content.toList
  let cs := if comesNext '+' cs then cs.drop 1 else cs
  match base? cs with
  | some base => digits? base (cs.drop 2)
  | none => if 1 < cs.length && comesNext '0' cs then none else digits? 10 cs

/-- Reads a number below a bound. -/
def nat (bound : Nat) : Reader Nat := fun d n =>
  ((typed? "int" d n).bind natural?).bind fun k => if k < bound then some k else none

/-- A plain scalar that means nothing. -/
def isNull (content : String) : Bool := ["null", "Null", "NULL", "~"].contains content

def optional {α : Type} (read : Reader α) : Reader (Option α) := fun d n =>
  match scalar? d n with
  | some (tag?, .plain, content) =>
    if tag? == some (commonTag "null") then
      if isNull content then some none else none
    else if tag?.isNone && (content.isEmpty || isNull content) then some none
    else (read d n).map some
  | _ => (read d n).map some

/-- The node is not written. -/
def isUnwritten (d : Document) (n : Node) : Bool :=
  match scalar? d n with
  | some (_, style, content) => style == .plain && content.isEmpty
  | none => false

def list {α : Type} (read : Reader α) : Reader (List α) := fun d n =>
  match d.resolve n with
  | some (.sequence _ items) => items.mapM (read d)
  | _ => if isUnwritten d n then some [] else none

/-- The entries of a mapping under their keys, which must be scalars. -/
def entries (d : Document) (n : Node) : Option (List (String × Node)) :=
  match d.resolve n with
  | some (.mapping _ entries) => entries.mapM fun entry => (text d entry.1).map (·, entry.2)
  | _ => if isUnwritten d n then some [] else none

/-- The value of a key, if the mapping has one; it must not have two. -/
def entry? (es : List (String × Node)) (key : String) : Option (Option Node) :=
  match es.filter (·.1 == key) with
  | [] => some none
  | [e] => some (some e.2)
  | _ => none

def required {α : Type} (d : Document) (es : List (String × Node)) (key : String)
    (read : Reader α) : Option α := do
  match ← entry? es key with
  | some n => read d n
  | none => none

/-- Reads the value of a key, or takes the preset one. -/
def withPreset {α : Type} (d : Document) (es : List (String × Node)) (key : String) (preset : α)
    (read : Reader α) : Option α := do
  match ← entry? es key with
  | some n => read d n
  | none => some preset

def flavorNamed? (name : String) : Option Flavor :=
  if ["postgres", "postgresql", "psql", "pg"].contains name then some .postgres
  else if ["mysql", "mariadb"].contains name then some .mysql
  else none

/-- The name in a tag of the document's own. -/
def ownTag? : Option (List Char) → Option String
  | some ['!'] => some "!"
  | some ('!' :: name) => some (String.ofList name)
  | _ => none

/-- Reads a flavor: a scalar that names it, or a tag that names it on nothing. -/
def flavor : Reader Flavor := fun d n =>
  match scalar? d n with
  | none => none
  | some (tag?, style, content) =>
    match ownTag? tag? with
    | some name =>
      if style == .plain && (content.isEmpty || isNull content) then flavorNamed? name else none
    | none => flavorNamed? content

/-- Numbers of 64 bits are below this one. -/
def wordBound : Nat := Nat.pow 2 64

def databaseSettings : Reader DatabaseSettings := fun d n => do
  let es ← entries d n
  let flavor ← required d es "flavor" flavor
  let database ← required d es "database" text
  let username ← required d es "username" text
  let password ← withPreset d es "password" "" text
  let host ← required d es "host" text
  let port? ← withPreset d es "port" none (optional (nat 65536))
  let preset : DatabaseSettings := { flavor, database, username, host }
  let encryption ← withPreset d es "ssl_mode" preset.encryption text
  let roundTime ← withPreset d es "round_time" preset.roundTime bool
  let schema ← withPreset d es "schema" preset.schema text
  let excludedTables ← withPreset d es "exclude_tables" preset.excludedTables (list text)
  some { preset with password, port?, encryption, roundTime, schema, excludedTables }

def migrationOptions : Reader MigrationOptions := fun d n => do
  let es ← entries d n
  let preset : MigrationOptions := {}
  let truncateFirst ← withPreset d es "truncate_first" preset.truncateFirst bool
  let progressInterval ←
    withPreset d es "progress_interval" preset.progressInterval (nat wordBound)
  let maxInClauseIds ← withPreset d es "max_in_clause_ids" preset.maxInClauseIds (nat wordBound)
  let fullRowProbeLimit? ←
    withPreset d es "full_row_probe_limit" preset.fullRowProbeLimit? (optional (nat wordBound))
  let readBatchSize ← withPreset d es "read_batch_size" preset.readBatchSize (nat wordBound)
  some { truncateFirst, progressInterval, maxInClauseIds, fullRowProbeLimit?, readBatchSize }

def diagnosticOptions : Reader DiagnosticOptions := fun d n => do
  let es ← entries d n
  let preset : DiagnosticOptions := {}
  let logSql ← withPreset d es "log_sql" preset.logSql bool
  let logRowValues ← withPreset d es "log_row_values" preset.logRowValues bool
  let dumpSchemaDiff ← withPreset d es "dump_schema_diff" preset.dumpSchemaDiff bool
  let stopAfterSchemaDump ←
    withPreset d es "stop_after_schema_dump" preset.stopAfterSchemaDump bool
  some { logSql, logRowValues, dumpSchemaDiff, stopAfterSchemaDump }

def options : Reader Options := fun d n => do
  let es ← entries d n
  let migration ← withPreset d es "migration" {} migrationOptions
  let diagnostics ← withPreset d es "diagnostics" {} diagnosticOptions
  some { migration, diagnostics }

def configuration : Reader Configuration := fun d n => do
  let es ← entries d n
  let source ← required d es "source" databaseSettings
  let target ← required d es "dest" databaseSettings
  let options ← options d n
  some { source, target, options }

/-- The configuration that a text holds, rules not checked. -/
def ofText? (yaml : String) : Option Configuration :=
  (document? yaml).bind fun d => configuration d d.root

end RowSync.Config

namespace RowSync.Configuration

/-- The failure of a text that holds no configuration. -/
def unreadable : Failure := .yaml "the text holds no configuration"

/-- The configuration that a text holds. -/
def ofText (yaml : String) : Outcome Configuration :=
  match Config.ofText? yaml with
  | none => .error unreadable
  | some c => c.check.map fun _ => c

end RowSync.Configuration
