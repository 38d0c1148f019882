import RowSync.Schema.Compatibility

/-!
Two schemas side by side: every source table with its counterpart, the columns they share, and
what only one side has.
-/

set_option autoImplicit false

namespace RowSync

structure ColumnComparison where
  source : Column
  target : Column
  deriving DecidableEq, Repr

def ColumnComparison.isCompatible (c : ColumnComparison) : Bool :=
  RowSync.isCompatible c.source c.target

def ColumnComparison.verdict (c : ColumnComparison) : Verdict := classify c.source c.target

structure TableComparison where
  source : String
  target? : Option String
  columns : List ColumnComparison
  missingInTarget : List String
  missingInSource : List String
  deriving DecidableEq, Repr

structure SchemaComparison where
  tables : List TableComparison
  extraTargetTables : List String
  deriving DecidableEq, Repr

namespace SchemaComparison

/-- A source table compared with the destination table of its key, if there is one. -/
def compareTable (source : Table) : Option Table → TableComparison
  | none => ⟨source.name, none, [], source.columns.map (·.name), []⟩
  | some target =>
    { source := source.name
      target? := some target.name
      columns := source.columns.filterMap fun c =>
        (target.find? c.key).map fun d => ⟨c, d⟩
      missingInTarget :=
        (source.columns.filter fun c => (target.find? c.key).isNone).map (·.name)
      missingInSource :=
        (target.columns.filter fun d => !source.columns.any (·.key == d.key)).map (·.name) }

/-- The destination table that a source table is matched with. -/
def counterpart? (target : Schema) (t : Table) : Option Table := target.find? (Text.lower t.key)

/-- The comparison in the order of the source tables. -/
def compare (source target : Schema) : SchemaComparison :=
  { tables := source.tables.map fun t => compareTable t (counterpart? target t)
    extraTargetTables :=
      (target.tables.filter fun t => (counterpart? source t).isNone).map (·.name) }

/-- The number of column pairs whose bounds do not fit. -/
def incompatibleCount (c : SchemaComparison) : Nat :=
  ((c.tables.flatMap (·.columns)).filter fun pair => !pair.isCompatible).length

/-- The verdict as the log shows it. -/
def verdictText : Verdict → String
  | .safe => "safe"
  | .unsafeBecause reason => s!"unsafe ({reason})"
  | .needsReview => "needs review"

/-- Width to which column names are padded in the log. -/
def nameWidth : Nat := 30

def padRight (width : Nat) (s : String) : String :=
  s ++ String.ofList (List.replicate (width - s.length) ' ')

def columnLine (c : ColumnComparison) : String :=
  s!"    {padRight nameWidth c.source.name} {c.source.dataType}({c.source.maxChars}) -> " ++
    s!"{c.target.dataType}({c.target.maxChars}) compatible={c.isCompatible} " ++
    verdictText c.verdict

def tableLines (t : TableComparison) : List LogLine :=
  match t.target? with
  | none => [⟨.warn, s!"  {t.source}: missing from destination"⟩]
  | some target =>
    ⟨.info, s!"  {t.source} -> {target}"⟩ ::
      (t.columns.map fun c => (⟨.info, columnLine c⟩ : LogLine)) ++
      (t.missingInTarget.map fun name =>
        (⟨.warn, s!"    {name}: missing from destination table"⟩ : LogLine)) ++
      t.missingInSource.map fun name => (⟨.warn, s!"    {name}: destination-only column"⟩ : LogLine)

def lines (c : SchemaComparison) : List LogLine :=
  let head := s!"Schema comparison: {c.tables.length} source tables, " ++
    s!"{c.incompatibleCount} incompatible columns"
  ⟨.info, head⟩ :: c.tables.flatMap tableLines ++
    c.extraTargetTables.map fun name =>
      (⟨.info, s!"  {name}: destination-only table"⟩ : LogLine)

end SchemaComparison

end RowSync
