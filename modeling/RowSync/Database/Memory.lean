import RowSync.Database.Basic
import RowSync.Text.Search

/-!
A database held in memory. It speaks the plain dialect and understands exactly the statements
that runs send; an `id` column is its primary key.
-/

set_option autoImplicit false

namespace RowSync

structure MemoryColumn where
  name : String
  dataType : String
  maxChars? : Option Int := none
  deriving DecidableEq

structure MemoryTable where
  name : String
  columns : List MemoryColumn
  rows : List Row := []
  deriving DecidableEq

/-- The contents of a database in memory, and what was asked of it. -/
structure MemoryStore where
  tables : List MemoryTable
  constraintsEnabled : Bool := true
  /-- Every change of the constraint checks. -/
  toggles : List Bool := []
  /-- Every statement run. -/
  statements : List String := []
  deriving DecidableEq

/-- How a database in memory stores times and where it fails on purpose. -/
structure MemorySettings where
  resolution : Value.TimeResolution := .exact
  /-- Inserts of a row that holds this value fail. -/
  failingInsert? : Option Value := none
  failEnable : Bool := false
  failSchema : Bool := false

namespace MemoryTable

/-- The position of a column, found without regard to the case of ASCII letters. -/
def columnIndex (t : MemoryTable) (name : String) : Outcome Nat :=
  match t.columns.findIdx? fun c => Text.sameAscii c.name name with
  | some index => .ok index
  | none => .error (.value s!"unknown column {t.name}.{name}")

end MemoryTable

namespace MemoryStore

def unsupported (sql : String) : Failure := .value ("unsupported statement: " ++ sql)

/-- Puts a row behind those of the first table of exactly that name. -/
def addRow (name : String) (row : Row) : List MemoryTable → List MemoryTable
  | [] => []
  | t :: rest =>
    if t.name == name then { t with rows := t.rows ++ [row] } :: rest
    else t :: addRow name row rest

/-- The rows of the first table of exactly that name. -/
def rowsOf (s : MemoryStore) (name : String) : List Row :=
  match s.tables.find? (·.name == name) with
  | some t => t.rows
  | none => []

/-- The table of that name, found without regard to the case of ASCII letters. -/
def table (s : MemoryStore) (name : String) : Outcome MemoryTable :=
  match s.tables.find? fun t => Text.sameAscii t.name name with
  | some t => .ok t
  | none => .error (.value s!"unknown table {name}")

/-- Changes the first table of that name. -/
def updateFirst (name : String) (f : MemoryTable → MemoryTable) :
    List MemoryTable → List MemoryTable
  | [] => []
  | t :: rest => if Text.sameAscii t.name name then f t :: rest else t :: updateFirst name f rest

def setRows (s : MemoryStore) (name : String) (rows : List Row) : MemoryStore :=
  { s with tables := updateFirst name (fun t => { t with rows }) s.tables }

/-- The cell at a position; a row that ends before it has none there. -/
def cell (row : Row) (index : Nat) : Value := row.getD index .null

/-- The stored form of an identifier. -/
def unhex : Value → Value
  | .text s =>
    match Uuid.read? s with
    | some u => .bytes u.bytes
    | none => .null
  | .uuid u => .bytes u.bytes
  | v => v

/-- The characters of the expression that stores an identifier. -/
def unhexChars : List Char := Dialect.unhexMarker.toList

/-- The value that a marker makes of a parameter. -/
def throughMarker (marker : List Char) (parameter : Value) : Value :=
  if marker == unhexChars then unhex parameter else parameter

/-- One comparison of a column with a parameter. -/
def comparison (sql : String) (t : MemoryTable) (clause : List Char) (parameter : Value) :
    Outcome (Nat × Value) :=
  match Text.splitOnce? " <=> ".toList clause with
  | none => .error (unsupported sql)
  | some (column, marker) =>
    (t.columnIndex (String.ofList column)).map fun index => (index, throughMarker marker parameter)

def matchesAll (wanted : List (Nat × Value)) (row : Row) : Bool :=
  wanted.all fun entry => (cell row entry.1).nullSafeEq entry.2

/-- Answers whether a row with the given values exists. -/
def runExists (s : MemoryStore) (sql : String) (parameters : List Value) : Outcome (List Row) := do
  let some inner := (Text.stripPrefix? "SELECT EXISTS (SELECT 1 FROM ".toList sql.toList).bind
      (Text.stripSuffix? [')']) | .error (unsupported sql)
  let some (name, clauses) := Text.splitOnce? " WHERE ".toList inner | .error (unsupported sql)
  let t ← s.table (String.ofList name)
  let pairs := (Text.splitAll " AND ".toList clauses).zip parameters
  let wanted ← pairs.mapM fun pair => comparison sql t pair.1 pair.2
  .ok [[.int64 (if t.rows.any (matchesAll wanted) then 1 else 0)]]

/-- The length of a value: characters of a text, bytes of anything else. -/
def valueLength : Value → Nat
  | .null => 0
  | .text s => s.length
  | .bytes b => b.length
  | v => v.display.utf8ByteSize

/-- One condition on the length of a column. -/
def lengthLimit (sql : String) (t : MemoryTable) (part : List Char) : Outcome (Nat × Nat) :=
  match (Text.stripPrefix? "LENGTH(".toList part).bind (Text.splitOnce? ") > ".toList) with
  | none => .error (unsupported sql)
  | some (column, bound) =>
    match Integer.readUnsigned 64 (String.ofList bound) with
    | .error _ => .error (unsupported sql)
    | .ok bound => (t.columnIndex (String.ofList column)).map fun index => (index, bound)

/-- The rows that a filter keeps. -/
def filterRows (sql : String) (t : MemoryTable) (parameters : List Value) (filter : List Char) :
    Outcome (List Row) :=
  match Text.splitOnce? " NOT IN (".toList filter with
  | some (column, _) =>
    (t.columnIndex (String.ofList column)).map fun index =>
      t.rows.filter fun row => !parameters.any fun p => (cell row index).nullSafeEq p
  | none => do
    let limits ← (Text.splitAll " OR ".toList filter).mapM (lengthLimit sql t)
    .ok (t.rows.filter fun row =>
      limits.any fun limit => limit.2 < valueLength (cell row limit.1))

/-- Answers a statement that reads columns or counts rows. -/
def runSelect (s : MemoryStore) (sql : String) (parameters : List Value) : Outcome (List Row) := do
  let some rest := Text.stripPrefix? "SELECT ".toList sql.toList | .error (unsupported sql)
  let some (columns, rest) := Text.splitOnce? " FROM ".toList rest | .error (unsupported sql)
  let (name, filter?) :=
    match Text.splitOnce? " WHERE ".toList rest with
    | some (name, filter) => (name, some filter)
    | none => (rest, none)
  let t ← s.table (String.ofList name)
  let rows ←
    match filter? with
    | some filter => filterRows sql t parameters filter
    | none => .ok t.rows
  if columns == "COUNT(*)".toList then .ok [[.int64 (Int64.ofNat rows.length)]]
  else do
    let indexes ← (Text.splitAll ", ".toList columns).mapM fun c => t.columnIndex (String.ofList c)
    .ok (rows.map fun row => indexes.map (cell row))

/-- The row with a value put at a position. -/
def setCell (row : Row) (index : Nat) (v : Value) : Row := row.set index v

/-- Fills a row from columns, markers and parameters. -/
def fillRow (settings : MemorySettings) (t : MemoryTable) (row : Row) :
    List ((List Char × List Char) × Value) → Outcome Row
  | [] => .ok row
  | ((column, marker), parameter) :: rest =>
    match t.columnIndex (String.ofList column) with
    | .error e => .error e
    | .ok index =>
      let stored := (if marker == ['U'] then unhex parameter else parameter).mapTime
        settings.resolution.normalize
      fillRow settings t (setCell row index stored) rest

/-- The row would repeat the primary key of a row already there. -/
def repeatedKey? (t : MemoryTable) (row : Row) : Option Failure :=
  match t.columnIndex "id" with
  | .error _ => none
  | .ok index =>
    if t.rows.any fun r => (cell r index).nullSafeEq (cell row index) then
      some (.duplicateKey
        s!"Duplicate entry '{(cell row index).display}' for key '{t.name}.PRIMARY'")
    else none

/-- The failure of an insert that is set up to fail. -/
def simulatedFailure? (settings : MemorySettings) (parameters : List Value) : Option Failure :=
  settings.failingInsert?.bind fun failing =>
    if parameters.any fun p => p.sameKindEq failing then
      some (.value ("simulated insert failure for " ++ failing.display))
    else none

def runInsert (settings : MemorySettings) (s : MemoryStore) (sql : String)
    (parameters : List Value) : Outcome (Nat × MemoryStore) := do
  if let some failure := simulatedFailure? settings parameters then .error failure
  let some rest := Text.stripPrefix? "INSERT INTO ".toList sql.toList | .error (unsupported sql)
  let some (name, rest) := Text.splitOnce? " (".toList rest | .error (unsupported sql)
  let some (columns, markers) := (Text.stripSuffix? [')'] rest).bind
      (Text.splitOnce? ") VALUES (".toList) | .error (unsupported sql)
  let markers := Text.replaceAll unhexChars ['U'] markers
  let name := String.ofList name
  let t ← s.table name
  let cells := ((Text.splitAll ", ".toList columns).zip
    (Text.splitAll ", ".toList markers)).zip parameters
  let row ← fillRow settings t (t.columns.map fun _ => .null) cells
  if let some failure := repeatedKey? t row then .error failure
  .ok (1, s.setRows name (t.rows ++ [row]))

def remember (s : MemoryStore) (sql : String) : MemoryStore :=
  { s with statements := s.statements ++ [sql] }

/-- Answers a statement that gives rows. -/
def query (sql : String) (parameters : List Value) : Request MemoryStore (List Row) := fun s =>
  let answer :=
    if Text.startsWith sql "SELECT EXISTS " then s.runExists sql parameters
    else s.runSelect sql parameters
  (answer, s.remember sql)

/-- Runs a statement that changes rows. -/
def execute (settings : MemorySettings) (sql : String) (parameters : List Value) :
    Request MemoryStore Nat := fun s =>
  let s := s.remember sql
  match Text.stripPrefix? "TRUNCATE TABLE ".toList sql.toList with
  | some name =>
    let name := String.ofList name
    match s.table name with
    | .ok t => (.ok t.rows.length, s.setRows name [])
    | .error e => (.error e, s)
  | none =>
    match runInsert settings s sql parameters with
    | .ok (affected, s) => (.ok affected, s)
    | .error e => (.error e, s)

def describe (s : MemoryStore) : List SchemaRow :=
  s.tables.flatMap fun t => t.columns.map fun c => ⟨t.name, c.name, c.dataType, c.maxChars?⟩

/-- Turns the checks between tables on or off. -/
def toggle (s : MemoryStore) (enabled : Bool) : MemoryStore :=
  { s with constraintsEnabled := enabled, toggles := s.toggles ++ [enabled] }

def streamOf (size : Nat) : Outcome (List Row) → Stream
  | .ok rows => Stream.ofRows size (rows.map .ok)
  | .error e => ⟨[], .error e⟩

def database (settings : MemorySettings) : Database MemoryStore where
  dialect := .plain settings.resolution
  schemaRows := fun s =>
    (if settings.failSchema then
      .error (.schemaExtraction "simulated introspection failure")
    else .ok s.describe, s)
  disableConstraints := fun s => (.ok (), s.toggle false)
  enableConstraints := fun s =>
    if settings.failEnable then (.error (.value "simulated enable failure"), s)
    else (.ok (), s.toggle true)
  query := query
  stream := fun sql parameters size s =>
    let (answer, s) := query sql parameters s
    (streamOf size answer, s)
  execute := execute settings
  close := fun s => (.ok (), s)

end MemoryStore

end RowSync
